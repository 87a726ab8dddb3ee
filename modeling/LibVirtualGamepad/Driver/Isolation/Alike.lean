import LibVirtualGamepad.Driver.Isolation.Runs

-- Two devices that differ in the slots of other files only. A request on a slot of one's
-- own does the same in both.
namespace LibVirtualGamepad

open Interleaving

-- The device with other slots, and its timer set for another moment.
def Device.withOthers (d : Device) (slots : ControllerId → Slot) (due : Option UInt64) : Device :=
  { d with controllers := slots, keepalive := { d.keepalive with due := due } }

-- Nothing but other slots and the moment the timer is set for, which is the earliest over
-- all slots.
def Alike (mine : ControllerId → Prop) (d d' : Device) : Prop :=
  ∃ slots due, (∀ id, mine id → slots id = d.controllers id) ∧ d' = d.withOthers slots due

structure SameOutcome (mine : ControllerId → Prop) (o o' : Effect) : Prop where
  shared : Alike mine o.shared o'.shared
  regs : o'.regs = o.regs
  next : o'.next = o.next
  spawn : o'.spawn = o.spawn

-- What a request does that names the slot.
def Act.within (id : ControllerId) : Act → Bool
  | .lockLifetime | .unlockLifetime | .reply _ _ | .deleteBegin _ | .deleteEnd _ | .target _ => true
  | .slot i _ | .submitEnter i _ _ | .submitLeave i _ _ | .waitForSubmits i | .create i _ _ _
  | .destroy i _ _ => i == id
  | .keepalive act => act.starts
  | .power _ | .keyboardMouse _ => false

section Devices

variable {mine : ControllerId → Prop} {d d' : Device} {id : ControllerId}

theorem Alike.symm (h : Alike mine d d') : Alike mine d' d := by
  obtain ⟨slots, due, hslots, rfl⟩ := h
  exact ⟨d.controllers, d.keepalive.due, fun id hid => (hslots id hid).symm, rfl⟩

theorem Alike.slot (h : Alike mine d d') (hid : mine id) :
    d'.controllers id = d.controllers id := by
  obtain ⟨slots, due, hslots, rfl⟩ := h
  exact hslots id hid

theorem Alike.setSlot (h : Alike mine d d') (slot : Slot) :
    Alike mine (d.setSlot id slot) (d'.setSlot id slot) := by
  obtain ⟨slots, due, hslots, rfl⟩ := h
  refine ⟨Function.update slots id slot, due, fun i hi => ?_, rfl⟩
  by_cases heq : i = id
  · simp [heq, Device.setSlot]
  · simp [heq, Device.setSlot, hslots i hi]

-- An update that looks at neither.
theorem Alike.map {f : Device → Device} (h : Alike mine d d')
    (hslots : ∀ d, (f d).controllers = d.controllers)
    (hf : ∀ slots due, f (d.withOthers slots due) = (f d).withOthers slots due) :
    Alike mine (f d) (f d') := by
  obtain ⟨slots, due, hmine, rfl⟩ := h
  refine ⟨slots, due, fun id hid => ?_, hf slots due⟩
  rw [hslots]
  exact hmine id hid

theorem Alike.setTimer (h : Alike mine d d') (delay delay' : UInt64) :
    Alike mine (d.setTimer delay) (d'.setTimer delay') := by
  obtain ⟨slots, due, hslots, rfl⟩ := h
  exact ⟨slots, some delay', hslots, rfl⟩

theorem Alike.arm (h : Alike mine d d') (now : UInt64) : Alike mine (d.arm now) (d'.arm now) := by
  obtain ⟨slots, due, hslots, rfl⟩ := h
  unfold Device.arm
  show Alike mine _ (if (!d.keepalive.timer || !d.keepalive.running) = true then _ else _)
  split
  · exact ⟨slots, due, hslots, rfl⟩
  · exact ⟨slots, some _, hslots, rfl⟩

-- What the two have in common beside the slots.
structure SameRest (d d' : Device) : Prop where
  gateHeld : d'.gateHeld = d.gateHeld
  flags : d'.flags = d.flags
  localVhfTarget : d'.localVhfTarget = d.localVhfTarget
  vhfFileHandle : d'.vhfFileHandle = d.vhfFileHandle
  thread : d'.keepalive.thread = d.keepalive.thread
  children : d'.children = d.children

theorem Alike.rest (h : Alike mine d d') : SameRest d d' := by
  obtain ⟨slots, due, hslots, rfl⟩ := h
  exact ⟨rfl, rfl, rfl, rfl, rfl, rfl⟩

theorem SameRest.stopping (h : SameRest d d') : d'.stopping = d.stopping :=
  congrArg DeviceFlags.stopping h.flags

theorem SameRest.powered (h : SameRest d d') : d'.powered = d.powered :=
  congrArg DeviceFlags.powered h.flags

theorem Alike.section (h : Alike mine d d') (hid : mine id) (now : UInt64) :
    d'.sectionOf id now = d.sectionOf id now := by
  simp only [Device.sectionOf, h.rest.flags, h.slot hid]

end Devices

section Acts

variable {mine : ControllerId → Prop} {d d' : Device} {id : ControllerId} {file : File}
  {profile : Profile} {threads : List Task} {k : Operation} {regs : Registers} {choice : Choice}
  {a : Act} {o : Effect}

theorem Alike.effect (h : Alike mine d d') (regs : Registers) (next : List Act) :
    SameOutcome mine (d.effect regs next) (d'.effect regs next) :=
  ⟨h, rfl, rfl, rfl⟩

theorem slot_alike (h : Alike mine d d') (hid : mine id) (step : SlotStep) :
    SameOutcome mine (step.exec d regs choice id) (step.exec d' regs choice id) := by
  unfold SlotStep.exec
  dsimp only
  rw [h.section hid, h.slot hid]
  generalize step.run (d.sectionOf id choice.now) (d.controllers id).data = r
  have hsection : Alike mine (d.applySection id r) (d'.applySection id r) := by
    simp only [Device.applySection, h.slot hid]
    exact h.setSlot _
  have hstarted : Alike mine (if r.startKeepalive then (d.applySection id r).setRunning true
      else d.applySection id r) (if r.startKeepalive then (d'.applySection id r).setRunning true
      else d'.applySection id r) := by
    split
    · exact hsection.map (f := (·.setRunning true)) (fun _ => rfl) fun _ _ => rfl
    · exact hsection
  have hsubmission : d'.submission id r.status.isSome = d.submission id r.status.isSome := by
    simp only [Device.submission, h.slot hid]
  refine ⟨?_, rfl, ?_, rfl⟩
  · show Alike mine (if r.rearm then _ else _) (if r.rearm then _ else _)
    split
    · exact hstarted.arm _
    · exact hstarted
  · simp only [Device.effect, hsubmission]

theorem createRefusal_alike (h : Alike mine d d') (hid : mine id) (file : File) :
    d'.createRefusal id file = d.createRefusal id file := by
  simp only [Device.createRefusal, Device.available, h.slot hid, h.rest.stopping, h.rest.powered]
  rfl

theorem create_alike (h : Alike mine d d') (hid : mine id) (act : CreateAct) :
    SameOutcome mine (act.exec d regs choice id file profile)
      (act.exec d' regs choice id file profile) := by
  have hslot := h.slot hid
  have hrefusal := createRefusal_alike h hid file
  cases act with
  | check =>
    simp only [CreateAct.exec, hrefusal, hslot]
    cases d.createRefusal id file with
    | some status => exact h.effect _ _
    | none => exact h.effect _ _
  | enumerate generation => exact h.effect _ _
  | «begin» generation childPresent =>
    simp only [CreateAct.exec, hrefusal, hslot]
    cases d.createRefusal id file with
    | some status => exact h.effect _ _
    | none =>
      simp only
      split
      · exact h.effect _ _
      · refine Alike.effect ?_ _ _
        simp only [Device.beginSlot, hslot]
        exact h.setSlot _
  | targetOpened =>
    simp only [CreateAct.exec]
    split
    · exact h.effect _ _
    · exact h.effect _ _
  | readFile =>
    simp only [CreateAct.exec, h.rest.vhfFileHandle]
    split
    · exact h.effect _ _
    · exact h.effect _ _
  | vhfCreate =>
    simp only [CreateAct.exec, h.rest.children]
    split
    · exact (h.map (f := (·.addChild (.controller id) none)) (fun _ => rfl)
        fun _ _ => rfl).effect _ _
    · exact h.effect _ _
  | publish handle =>
    simp only [CreateAct.exec, Device.setControl, hslot]
    exact (h.setSlot _).effect _ _
  | start handle =>
    exact (h.map (f := (·.startChild handle)) (fun _ => rfl) fun _ _ => rfl).effect _ _
  | adopt handle =>
    simp only [CreateAct.exec, hslot, h.rest.stopping, h.rest.powered]
    split
    · simp only [Device.setControl, hslot]
      exact (h.setSlot _).effect _ _
    · rw [clearFeedbackPending_setControl, clearFeedbackPending_setControl, hslot]
      exact (h.setSlot _).effect _ _
  | release =>
    simp only [CreateAct.exec, Device.releaseStartingSlot, Device.resetSlot, hslot]
    split
    · exact (h.setSlot _).effect _ _
    · exact h.effect _ _

theorem destroy_alike (h : Alike mine d d') (hid : mine id) (act : DestroyAct) :
    SameOutcome mine (act.exec d regs id file) (act.exec d' regs id file) := by
  have hslot := h.slot hid
  cases act with
  | check =>
    simp only [DestroyAct.exec, hslot]
    repeat' split
    all_goals exact h.effect _ _
  | detach =>
    simp only [DestroyAct.exec, Device.resetSlot, hslot]
    split
    · exact h.effect _ _
    split
    · simp only [Device.setControl, hslot]
      exact (h.setSlot _).effect _ _
    split
    · exact (h.setSlot _).effect _ _
    · rw [discardFeedback_setControl, discardFeedback_setControl, hslot]
      exact (h.setSlot _).effect _ _
  | finish =>
    simp only [DestroyAct.exec, Device.resetSlot, hslot]
    split
    · exact (h.setSlot _).effect _ _
    · exact h.effect _ _

theorem target_alike (h : Alike mine d d') (act : TargetAct) :
    SameOutcome mine (act.exec d regs choice) (act.exec d' regs choice) := by
  cases act with
  | check =>
    simp only [TargetAct.exec, h.rest.vhfFileHandle, h.rest.stopping, h.rest.localVhfTarget]
    repeat' split
    all_goals exact h.effect _ _
  | openByFile =>
    simp only [TargetAct.exec]
    repeat' split
    all_goals exact h.effect _ _
  | store file =>
    exact (h.map (f := fun d => { d with vhfFileHandle := some file, vhfTargetOpen := true })
      (fun _ => rfl) fun _ _ => rfl).effect _ _

theorem keepalive_alike {act : KeepaliveAct} (h : Alike mine d d') (hact : act.starts = true)
    (hexec : act.exec threads d regs choice = some o) :
    ∃ o', act.exec threads d' regs choice = some o' ∧ SameOutcome mine o o' := by
  have hset {f : Keepalive → Keepalive} (hf : ∀ keepalive due,
      f { keepalive with due := due } = { f keepalive with due := due }) :
      Alike mine { d with keepalive := f d.keepalive } { d' with keepalive := f d'.keepalive } := by
    refine h.map (f := fun d => { d with keepalive := f d.keepalive }) (fun _ => rfl) ?_
    intro slots due
    exact congrArg (fun keepalive => { d with controllers := slots, keepalive := keepalive })
      (hf d.keepalive due)
  cases act with
  | join =>
    simp only [KeepaliveAct.exec, h.rest.thread] at hexec ⊢
    cases hthread : d.keepalive.thread with
    | none =>
      simp only [hthread] at hexec ⊢
      cases hexec
      exact ⟨_, rfl, h.effect _ _⟩
    | some thread =>
      simp only [hthread] at hexec ⊢
      split at hexec <;> cases hexec
      rename_i hfinished
      refine ⟨_, if_pos hfinished, Alike.effect ?_ _ _⟩
      exact hset (f := fun keepalive => { keepalive with thread := none }) fun _ _ => rfl
  | publishStart =>
    cases hexec
    refine ⟨_, rfl, Alike.effect ?_ _ _⟩
    exact hset (f := fun keepalive => { keepalive with running := true, parked := false })
      fun _ _ => rfl
  | resetStop =>
    cases hexec
    refine ⟨_, rfl, Alike.effect ?_ _ _⟩
    exact hset (f := fun keepalive => { keepalive with stop := false }) fun _ _ => rfl
  | armFirst =>
    simp only [KeepaliveAct.exec] at hexec ⊢
    split at hexec <;> cases hexec
    · rename_i hok
      exact ⟨_, if_pos hok, (h.setTimer tickUs tickUs).effect _ _⟩
    · rename_i hfailed
      exact ⟨_, if_neg hfailed, h.effect _ _⟩
  | createWorker =>
    simp only [KeepaliveAct.exec] at hexec ⊢
    split at hexec <;> cases hexec
    · rename_i hok
      refine ⟨_, if_pos hok, ?_, rfl, rfl, rfl⟩
      exact hset (f := fun keepalive => { keepalive with thread := some threads.length })
        fun _ _ => rfl
    · rename_i hfailed
      exact ⟨_, if_neg hfailed, h.effect _ _⟩
  | startFailed =>
    cases hexec
    refine ⟨_, rfl, Alike.effect ?_ _ _⟩
    exact hset (f := fun keepalive => { keepalive with running := false }) fun _ _ => rfl
  | cancel =>
    cases hexec
    refine ⟨_, rfl, Alike.effect ?_ _ _⟩
    obtain ⟨slots, due, hslots, rfl⟩ := h
    exact ⟨slots, none, hslots, rfl⟩
  | _ => cases hact

-- One act of a request does the same in both.
theorem act_alike (h : Alike mine d d') (hid : mine id) (ha : a.within id = true)
    (hexec : a.exec threads d k regs choice = some o) :
    ∃ o', a.exec threads d' k regs choice = some o' ∧ SameOutcome mine o o' := by
  cases a with
  | lockLifetime =>
    simp only [Act.exec, h.rest.gateHeld] at hexec ⊢
    split at hexec <;> cases hexec
    rename_i hfree
    refine ⟨_, if_neg hfree, Alike.effect ?_ _ _⟩
    exact h.map (f := fun d => { d with gateHeld := true }) (fun _ => rfl) fun _ _ => rfl
  | unlockLifetime =>
    cases hexec
    refine ⟨_, rfl, Alike.effect ?_ _ _⟩
    exact h.map (f := fun d => { d with gateHeld := false }) (fun _ => rfl) fun _ _ => rfl
  | reply status output =>
    cases hexec
    exact ⟨_, rfl, h.effect _ _⟩
  | slot i step =>
    obtain rfl : i = id := by simpa [Act.within] using ha
    cases hexec
    exact ⟨_, rfl, slot_alike h hid step⟩
  | submitEnter i handle answers =>
    cases hexec
    exact ⟨_, rfl, h.effect _ _⟩
  | submitLeave i handle answers =>
    obtain rfl : i = id := by simpa [Act.within] using ha
    cases hexec
    refine ⟨_, rfl, ?_⟩
    simp only [Device.setControl, h.slot hid]
    exact (h.setSlot _).effect _ _
  | waitForSubmits i =>
    obtain rfl : i = id := by simpa [Act.within] using ha
    simp only [Act.exec, h.slot hid] at hexec ⊢
    split at hexec <;> cases hexec
    rename_i hidle
    exact ⟨_, if_pos hidle, h.effect _ _⟩
  | deleteBegin handle =>
    cases hexec
    refine ⟨_, rfl, Alike.effect ?_ _ _⟩
    exact h.map (f := fun d => d.setChild handle fun child =>
      { child with deleteCalls := child.deleteCalls + 1 }) (fun _ => rfl) fun _ _ => rfl
  | deleteEnd handle =>
    simp only [Act.exec] at hexec ⊢
    split at hexec <;> cases hexec
    rename_i hgone
    refine ⟨_, if_neg hgone, Alike.effect ?_ _ _⟩
    exact h.map (f := fun d => d.setChild handle fun child =>
      { child with deleteReturns := child.deleteReturns + 1 }) (fun _ => rfl) fun _ _ => rfl
  | target act =>
    cases hexec
    exact ⟨_, rfl, target_alike h act⟩
  | create i owner profile act =>
    obtain rfl : i = id := by simpa [Act.within] using ha
    cases hexec
    exact ⟨_, rfl, create_alike h hid act⟩
  | destroy i owner act =>
    obtain rfl : i = id := by simpa [Act.within] using ha
    cases hexec
    exact ⟨_, rfl, destroy_alike h hid act⟩
  | keepalive act => exact keepalive_alike h ha hexec
  | power act | keyboardMouse act => cases ha

-- It goes on with acts of the same request.
theorem within_next (ha : a.within id = true) (hexec : a.exec threads d k regs choice = some o) :
    ∀ b ∈ o.next, b.within id = true := by
  cases a with
  | slot i step =>
    obtain rfl : i = id := by simpa [Act.within] using ha
    cases hexec
    intro b hb
    simp only [SlotStep.exec, Device.effect, List.mem_append, List.mem_map] at hb
    obtain (hstart | hsubmit) | ⟨next, -, rfl⟩ := hb
    · split at hstart
      · revert b
        simp [startKeepalive, Act.within, KeepaliveAct.starts]
      · cases hstart
    · split at hsubmit
      · obtain ⟨handle, -, rfl⟩ := submission_handle hsubmit
        simp [Act.within]
      · cases hsubmit
    · simp [Act.within]
  | create i owner profile act =>
    obtain rfl : i = id := by simpa [Act.within] using ha
    cases hexec
    cases act <;> simp only [CreateAct.exec] <;> (repeat' split) <;>
      simp [Device.effect, targetOpen, Act.within]
  | destroy i owner act =>
    obtain rfl : i = id := by simpa [Act.within] using ha
    cases hexec
    cases act with
    | detach =>
      simp only [DestroyAct.exec]
      repeat' split
      all_goals simp [Device.effect, deleteAfterSubmits, Act.within]
    | _ =>
      simp only [DestroyAct.exec]
      repeat' split
      all_goals simp [Device.effect, Act.within]
  | target act =>
    cases hexec
    cases act <;> simp only [TargetAct.exec] <;> (repeat' split) <;> simp [Device.effect, Act.within]
  | keepalive act =>
    cases act with
    | signalStop | wait | tick | workerExit => cases ha
    | _ =>
      simp only [Act.exec, KeepaliveAct.exec] at hexec
      repeat' split at hexec
      all_goals cases hexec
      all_goals simp [Device.effect, Act.within, KeepaliveAct.starts]
  | submitEnter i handle answers =>
    cases hexec
    simpa [Device.effect, Act.within] using ha
  | lockLifetime | waitForSubmits i | deleteEnd handle =>
    simp only [Act.exec] at hexec
    split at hexec <;> cases hexec
    exact List.forall_mem_nil _
  | unlockLifetime | reply status output | submitLeave i handle answers | deleteBegin handle =>
    cases hexec
    exact List.forall_mem_nil _
  | power act | keyboardMouse act => cases ha

theorem within_program {request : Request} (hnames : request.names = some id) :
    ∀ b ∈ request.program file, b.within id = true := by
  cases request with
  | query asked =>
    cases asked with
    | none => cases hnames
    | some asked =>
      simp only [Request.names, Request.controllerId, Option.bind_some] at hnames
      simp [Request.program, withSlot, hnames, Act.within]
  | keyboardMouse request => cases hnames
  | create request =>
    simp only [Request.names] at hnames
    simp only [Request.program, withSlot, hnames]
    repeat' split
    all_goals simp [Act.within]
  | destroy asked | attributes update | poll asked =>
    simp only [Request.names, Request.controllerId, Option.bind_some] at hnames
    simp [Request.program, withSlot, hnames, Act.within]
  | input input =>
    simp only [Request.names, Request.controllerId, Option.bind_some] at hnames
    simp only [Request.program, withSlot, hnames]
    split
    · simp [Act.within]
    · simp [gated, Act.within]
  | touch update | motion update | battery update =>
    simp only [Request.names, Request.controllerId, Option.bind_some] at hnames
    simp only [Request.program]
    split
    · simp [Act.within]
    · simp [stateUpdate, withSlot, hnames, gated, Act.within]

end Acts

section Worlds

variable {mine : ControllerId → Prop} {w w' : World} {id : ControllerId} {file : File} {j : Nat}

structure AlikeWorlds (mine : ControllerId → Prop) (w w' : World) : Prop where
  threads : w'.threads = w.threads
  shared : Alike mine w.shared w'.shared

theorem AlikeWorlds.symm (h : AlikeWorlds mine w w') : AlikeWorlds mine w' w :=
  ⟨h.threads.symm, h.shared.symm⟩

-- The thread at the index has nothing left to do but acts of a request for the slot.
def ServesSlot (w : World) (id : ControllerId) (j : Nat) : Prop :=
  ∃ t, w.threads[j]? = some t ∧ ∀ b ∈ t.todo, b.within id = true

theorem act_alike_world {choice : Choice} {w₁ : World} (h : AlikeWorlds mine w w') (hid : mine id)
    (hserves : ServesSlot w id j) (hstep : driver.step w (.act j choice) = some w₁) :
    ServesSlot w₁ id j ∧
      ∃ w₁', driver.step w' (.act j choice) = some w₁' ∧ AlikeWorlds mine w₁ w₁' := by
  obtain ⟨s⟩ := System.actStep_of_step hstep
  obtain ⟨t, ht, hwithin⟩ := hserves
  obtain rfl : s.thread = t := Option.some.inj (s.at_index.symm.trans ht)
  rw [s.todo] at hwithin
  have hexec : s.act.exec w.threads w.shared s.thread.kind s.thread.regs choice = some s.outcome :=
    s.exec
  have hact := hwithin s.act List.mem_cons_self
  obtain ⟨o', hexec', hsame⟩ := act_alike h.shared hid hact hexec
  refine ⟨⟨_, s.at_index_after, fun b hb => ?_⟩,
    { shared := o'.shared
      threads := w'.threads.set j (o'.thread s.thread s.rest) ++ o'.spawn }, ?_, ?_, ?_⟩
  · obtain hb | hb := List.mem_append.mp hb
    · exact within_next hact hexec b hb
    · exact hwithin b (List.mem_cons_of_mem _ hb)
  · simp only [System.step, h.threads, s.at_index, s.todo, driver, hexec', Option.map_some]
  · simp only [h.threads, s.threads_after, Outcome.thread, hsame.regs, hsame.next, hsame.spawn]
  · rw [s.shared_after]
    exact hsame.shared

theorem step_alike (h : AlikeWorlds mine w w') (hid : mine id) (hserves : ServesSlot w id j)
    (choice : Choice) : Option.Rel (AlikeWorlds mine) (driver.step w (.act j choice))
      (driver.step w' (.act j choice)) := by
  cases hstep : driver.step w (.act j choice) with
  | some w₁ =>
    obtain ⟨-, w₁', hstep', hafter⟩ := act_alike_world h hid hserves hstep
    rw [hstep']
    exact .some hafter
  | none =>
    cases hstep' : driver.step w' (.act j choice) with
    | none => exact .none
    | some w₁' =>
      have hserves' : ServesSlot w' id j := by
        unfold ServesSlot
        rw [h.threads]
        exact hserves
      obtain ⟨-, w₁, hback, -⟩ := act_alike_world h.symm hid hserves' hstep'
      rw [hstep] at hback
      cases hback

theorem acts_alike (h : AlikeWorlds mine w w') (hid : mine id) (hserves : ServesSlot w id j)
    (choices : List Choice) :
    Option.Rel (AlikeWorlds mine) (driver.runAll w (choices.map (.act j)))
      (driver.runAll w' (choices.map (.act j))) := by
  induction choices generalizing w w' with
  | nil => exact .some h
  | cons choice choices ih =>
    have hstep := step_alike h hid hserves choice
    simp only [List.map_cons, System.runAll]
    cases hnext : driver.step w (.act j choice) with
    | none =>
      rw [hnext] at hstep
      cases hother : driver.step w' (.act j choice) with
      | none => exact .none
      | some w₁' =>
        rw [hother] at hstep
        cases hstep
    | some w₁ =>
      obtain ⟨hserves₁, w₁', hother, hafter⟩ := act_alike_world h hid hserves hnext
      rw [hother]
      exact ih hafter hserves₁

-- The request comes in and its thread runs, as far as the choices go.
def call (file : File) (request : Request) (j : Nat) (choices : List Choice) :
    List (Event Choice Stimulus) :=
  .env (.start (.request (some file) request)) :: choices.map (.act j)

theorem step_request (w : World) (request : Request) :
    driver.step w (.env (.start (.request (some file) request))) =
      if unfinished w.threads Operation.isRequest then none
      else some
        { shared := w.shared
          threads := w.threads ++ [(Operation.request (some file) request).start] } := by
  have hstart : driver.step w (.env (.start (.request (some file) request))) =
      (if !unfinished w.threads Operation.isRequest then
        some (w.shared, [(Operation.request (some file) request).start]) else none).map
          fun out => { shared := out.1, threads := w.threads ++ out.2 } := rfl
  rw [hstart]
  cases unfinished w.threads Operation.isRequest with
  | true => rfl
  | false => rfl

theorem call_alike {request : Request} (h : AlikeWorlds mine w w') (hid : mine id)
    (hnames : request.names = some id) (choices : List Choice) :
    Option.Rel (AlikeWorlds mine) (driver.runAll w (call file request w.threads.length choices))
      (driver.runAll w' (call file request w.threads.length choices)) := by
  simp only [call, System.runAll, step_request, h.threads]
  cases unfinished w.threads Operation.isRequest with
  | true => exact .none
  | false =>
    have hstarted : AlikeWorlds mine
        { shared := w.shared
          threads := w.threads ++ [(Operation.request (some file) request).start] }
        { shared := w'.shared
          threads := w.threads ++ [(Operation.request (some file) request).start] } :=
      ⟨rfl, h.shared⟩
    refine acts_alike hstarted hid ⟨(Operation.request (some file) request).start, ?_, ?_⟩ choices
    · rw [List.getElem?_append_right (Nat.le_refl _), Nat.sub_self]
      rfl
    · exact within_program hnames

end Worlds

section Runs

variable {keepalive : Bool}

-- A file and the slots of the others. No act of a thread that works for the file changes
-- such a slot; what the file asks of it is refused; and with any other contents of it the
-- requests on the file's own slots do what they did.
structure Isolated (run : driver.Run (World.initial keepalive)) (file : File) : Prop where
  untouched : ∀ n j choice a t id, run.Performs n j choice a → (run.world n).threads[j]? = some t →
    t.kind.file = some file → ((run.world n).shared.controllers id).Foreign file →
      (run.world (n + 1)).shared.controllers id = (run.world n).shared.controllers id
  refused : ∀ j t request id, run.last.threads[j]? = some t →
    t.kind = .request (some file) request → request.names = some id →
      (∀ n choice a, run.Performs n j choice a →
        ((run.world n).shared.controllers id).Foreign file) → t.regs.status.ok = false
  alike : ∀ n w request id choices, n ≤ run.length →
    AlikeWorlds (fun i => ((run.world n).shared.controllers i).control.owner = some file)
      (run.world n) w →
    request.names = some id → ((run.world n).shared.controllers id).control.owner = some file →
      Option.Rel
        (AlikeWorlds fun i => ((run.world n).shared.controllers i).control.owner = some file)
        (driver.runAll (run.world n) (call file request (run.world n).threads.length choices))
        (driver.runAll w (call file request (run.world n).threads.length choices))

theorem owner_isolation (run : driver.Run (World.initial keepalive)) (file : File) :
    Isolated run file where
  untouched _ _ _ _ _ _ hperforms ht hfile hforeign :=
    foreign_untouched hperforms ht hfile hforeign
  refused _ t _ _ ht hkind hnames hforeign :=
    (refused hnames hforeign run.length (Nat.le_refl _) t ht hkind).1
  alike _ _ _ _ choices _ hworlds hnames howned := call_alike hworlds howned hnames choices

-- The device as it is, but that the slot is in use too and another file's.
def besideAnother (w : World) (id other : ControllerId) (file : File) : World where
  threads := w.threads
  shared := w.shared.withOthers
    (Function.update w.shared.controllers other
      { w.shared.controllers id with
        control := { (w.shared.controllers id).control with owner := some file } })
    w.shared.keepalive.due

theorem owner_isolation_foreignPoll : ∃ run : driver.Run (World.initial true), ∃ t,
    run.last.threads[2]? = some t ∧ t.kind = .request (some 2) (.poll 0) ∧
      t.regs.status.ok = false ∧
        (run.world 21).shared.controllers ⟨0, by decide⟩ =
          (run.world 20).shared.controllers ⟨0, by decide⟩ ∧
        ∃ other id, (other.shared.controllers id).control.owner = some 2 ∧
          ∃ w w', driver.runAll (run.world 21) (call 1 (.poll 0) 3 [.willing]) = some w ∧
            driver.runAll other (call 1 (.poll 0) 3 [.willing]) = some w' ∧
              w'.threads = w.threads := by
  let run : driver.Run (World.initial true) := ⟨foreignPoll, by decide +kernel⟩
  let id : ControllerId := ⟨1, by decide⟩
  let other : World := besideAnother (run.world 21) ⟨0, by decide⟩ id 2
  have hisolated : Isolated run 2 := owner_isolation run 2
  have hlease : (run.world 20).shared.leaseOf ⟨0, by decide⟩ = ⟨.active, some 1⟩ := by
    decide +kernel
  have hforeign : ((run.world 20).shared.controllers ⟨0, by decide⟩).Foreign 2 := by
    have hstate : ((run.world 20).shared.controllers ⟨0, by decide⟩).control.state = .active :=
      congrArg Lease.state hlease
    have howner : ((run.world 20).shared.controllers ⟨0, by decide⟩).control.owner = some 1 :=
      congrArg Lease.owner hlease
    constructor
    · rw [hstate]
      decide
    · rw [howner]
      decide
  have hothers : ∀ n < 20, ((run.actAt n).all fun x => x.1 != 2) = true := by decide +kernel
  have hlast (n : Nat) (choice : Choice) (a : Act) (hperforms : run.Performs n 2 choice a) :
      n = 20 := by
    have hlt : n < 21 := hperforms.lt_length
    by_contra hne
    have hother := hothers n (by omega)
    rw [show run.actAt n = some (2, choice, a) from hperforms] at hother
    cases hother
  refine ⟨run, _, rfl, rfl, hisolated.refused 2 _ (.poll 0) ⟨0, by decide⟩ rfl rfl rfl ?_,
    hisolated.untouched 20 2 .willing (.slot ⟨0, by decide⟩ (.poll 2)) _ ⟨0, by decide⟩ rfl rfl rfl
      hforeign, other, id, ?_, ?_⟩
  · intro n choice a hperforms
    rw [hlast n choice a hperforms]
    exact hforeign
  · decide +kernel
  · have hfree : ((run.world 21).shared.controllers id).control.owner = none := by
      decide +kernel
    have howned : ((run.world 21).shared.controllers ⟨0, by decide⟩).control.owner = some 1 := by
      decide +kernel
    have hbeside : AlikeWorlds
        (fun i => ((run.world 21).shared.controllers i).control.owner = some 1)
        (run.world 21) other := by
      refine ⟨rfl, _, _, fun i hi => Function.update_of_ne ?_ _ _, rfl⟩
      rintro rfl
      rw [hfree] at hi
      cases hi
    have hcalled :
        (driver.runAll (run.world 21) (call 1 (.poll 0) 3 [.willing])).isSome = true := by
      decide +kernel
    obtain ⟨w, hw⟩ := Option.isSome_iff_exists.mp hcalled
    have hrel := (owner_isolation run 1).alike 21 other (.poll 0)
      ⟨0, by decide⟩ [.willing] (Nat.le_refl _) hbeside rfl howned
    have hcall : call 1 (.poll 0) (run.world 21).threads.length [.willing] =
        call 1 (.poll 0) 3 [.willing] := rfl
    rw [hcall, hw] at hrel
    cases hother : driver.runAll other (call 1 (.poll 0) 3 [.willing]) with
    | none =>
      rw [hother] at hrel
      cases hrel
    | some w' =>
      rw [hother] at hrel
      cases hrel with
      | some hafter => exact ⟨w, w', hw, rfl, hafter.threads⟩

end Runs

end LibVirtualGamepad
