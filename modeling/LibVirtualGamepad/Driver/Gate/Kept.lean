import LibVirtualGamepad.Driver.Gate.Submits

-- Every act of every thread keeps the gate's discipline, so it holds in all that the
-- driver reaches.
namespace LibVirtualGamepad

open Interleaving

variable {w w' : World} {j : Nat} {choice : Choice} {s : System.ActStep driver w j choice w'}
  {held m m₁ : Option Mode} {k : Operation} {d : Device} {quiet : ControllerId → Handle → Prop}

section Sections

variable {id : ControllerId} {r : StepResult}

theorem same_control {slot : Slot} (hstate : slot.control.state = (d.controllers id).control.state)
    (hvhf : slot.control.vhf = (d.controllers id).control.vhf)
    (howner : slot.control.owner = (d.controllers id).control.owner) (p : Place) :
    Same d (d.setSlot id slot) p := by
  by_cases hp : p = .controller id
  · subst hp
    refine ⟨?_, ?_, ?_, .refl _ _, .refl _ _⟩
    · simp [Device.stateAt, hstate]
    · simp [Device.vhfAt, hvhf]
    · simp [Device.ownerAt, howner]
  · exact same_setSlot hp

theorem applySection_control (d : Device) (id i : ControllerId) (r : StepResult) :
    ((d.applySection id r).controllers i).control.submitsInFlight =
      (d.controllers i).control.submitsInFlight + if r.submit && (i == id) then 1 else 0 := by
  unfold Device.applySection
  by_cases hi : i = id
  · subst hi
    cases r.submit <;> simp
  · simp [setSlot_controllers_of_ne hi, hi]

theorem same_applySection (d : Device) (id : ControllerId) (r : StepResult) (p : Place) :
    Same d (d.applySection id r) p := by
  unfold Device.applySection
  refine same_control ?_ ?_ ?_ p <;> cases r.submit <;> rfl

-- The device behind a section, and what its function goes on with.
def Device.afterSection (d : Device) (id : ControllerId) (r : StepResult) (now : UInt64) : Device :=
  let d' := d.applySection id r
  let d' := if r.startKeepalive then d'.setRunning true else d'
  if r.rearm then d'.arm now else d'

def Device.nextActs (d : Device) (id : ControllerId) (r : StepResult) : List Act :=
  (if r.startKeepalive then startKeepalive else []) ++
    (if r.submit then d.submission id r.status.isSome else []) ++ r.next.map (.slot id)

theorem afterSection_eq (d : Device) (id : ControllerId) (r : StepResult) (now : UInt64) :
    (d.afterSection id r now).gateHeld = d.gateHeld ∧
      (d.afterSection id r now).controllers = (d.applySection id r).controllers ∧
      (d.afterSection id r now).keyboardMouse = d.keyboardMouse ∧
      (d.afterSection id r now).children = d.children := by
  have hstarted : ∀ d' : Device, d' = (if r.startKeepalive then (d.applySection id r).setRunning true
      else d.applySection id r) → d'.gateHeld = d.gateHeld ∧
        d'.controllers = (d.applySection id r).controllers ∧ d'.keyboardMouse = d.keyboardMouse ∧
          d'.children = d.children := by
    rintro d' rfl
    split <;> exact ⟨rfl, rfl, rfl, rfl⟩
  obtain ⟨hg, hc, hk, hch⟩ := hstarted _ rfl
  unfold Device.afterSection
  dsimp only
  split
  · obtain ⟨hg', hc', hk', hch'⟩ := arm_eq (d := if r.startKeepalive then
      (d.applySection id r).setRunning true else d.applySection id r) now
    exact ⟨hg'.trans hg, hc'.trans hc, hk'.trans hk, hch'.trans hch⟩
  · exact ⟨hg, hc, hk, hch⟩

theorem same_afterSection (d : Device) (id : ControllerId) (r : StepResult) (now : UInt64)
    (p : Place) : Same d (d.afterSection id r now) p := by
  obtain ⟨-, hc, hk, hch⟩ := afterSection_eq d id r now
  have hsame := same_applySection d id r p
  refine ⟨?_, ?_, ?_, hch ▸ .refl _ _, hch ▸ .refl _ _⟩
  · cases p with
    | controller i => exact (by simpa only [Device.stateAt, hc] using hsame.state)
    | keyboardMouse => simp only [Device.stateAt, hk]
  · cases p with
    | controller i => exact (by simpa only [Device.vhfAt, hc] using hsame.vhf)
    | keyboardMouse => simp only [Device.vhfAt, hk]
  · cases p with
    | controller i => exact (by simpa only [Device.ownerAt, hc] using hsame.owner)
    | keyboardMouse => simp only [Device.ownerAt, hk]

theorem countP_submission {id i : ControllerId} {answers : Bool}
    (h : (d.controllers id).control.vhf.isSome = true) :
    (d.submission id answers).countP (Act.submitsTo i) = if i == id then 1 else 0 := by
  obtain ⟨handle, hvhf⟩ := Option.isSome_iff_exists.mp h
  by_cases hi : i = id
  · subst hi
    simp [Device.submission, hvhf, Act.submitsTo, Act.submission]
  · have hne : id ≠ i := fun heq => hi heq.symm
    simp [Device.submission, hvhf, Act.submitsTo, Act.submission, hi, hne]

theorem submission_handle {id : ControllerId} {answers : Bool} {b : Act}
    (hb : b ∈ d.submission id answers) :
    ∃ handle, (d.controllers id).control.vhf = some handle ∧ b = .submitEnter id handle answers := by
  unfold Device.submission at hb
  cases hvhf : (d.controllers id).control.vhf with
  | none => simp [hvhf] at hb
  | some handle =>
      rw [hvhf] at hb
      exact ⟨handle, rfl, List.mem_singleton.mp hb⟩

theorem startKeepalive_calm : ∀ a ∈ startKeepalive, a.submission = none := by
  simp [startKeepalive, Act.submission]

theorem chain_startKeepalive : Chain (Act.spec k) startKeepalive m m :=
  chain_keepalive fun a (ha : a ∈ [.join, .publishStart, .resetStop, .armFirst]) => by
    revert a
    simp

-- A section that runs in the mode of its thread.
theorem submits_slot {step : SlotStep} {regs : Registers} (hspec : (Act.slot id step).spec k m m₁)
    (hst : Standings d quiet m) :
    Submits k d m m₁ (.slot id step) (step.exec d regs choice id) := by
  obtain ⟨rfl, hrest, hsilent, hown⟩ := hspec
  have hexec : step.exec d regs choice id =
      (d.afterSection id (step.run (d.sectionOf id choice.now) (d.controllers id).data)
        choice.now).effect
        { status := (step.run (d.sectionOf id choice.now) (d.controllers id).data).status.getD
            regs.status
          output := (step.run (d.sectionOf id choice.now) (d.controllers id).data).output.getD
            regs.output }
        (d.nextActs id (step.run (d.sectionOf id choice.now) (d.controllers id).data)) := rfl
  have haccepts : (step.run (d.sectionOf id choice.now) (d.controllers id).data).submit = true →
      (d.controllers id).control.vhf.isSome = true ∧
        ((d.controllers id).control.state = .starting ∨ (d.controllers id).control.state = .active) :=
    fun hsubmit => accepts_state (SlotStep.accepts_of_submit hsubmit)
  have hquiet : m₁ = none → k.isCallback = false →
      (step.run (d.sectionOf id choice.now) (d.controllers id).data).submit = false ∧
        (step.run (d.sectionOf id choice.now) (d.controllers id).data).next = [] :=
    fun hm hk => ⟨(silent_run (hsilent hm hk)).1, (silent_run (hsilent hm hk)).2.2⟩
  rw [hexec]
  generalize step.run (d.sectionOf id choice.now) (d.controllers id).data = r at haccepts hquiet ⊢
  obtain ⟨hgate, hcontrollers, -, -⟩ := afterSection_eq d id r choice.now
  refine ⟨hgate, same_afterSection d id r choice.now, fun i => ?_, fun b hb i handle hsub => .inr ?_,
    ?_, rfl⟩
  · -- One more in flight exactly where a submission follows.
    have hslot : (Act.slot id step).submitsTo i = false := Act.submitsTo_eq_false rfl i
    have hstart : (if r.startKeepalive then startKeepalive else []).countP (Act.submitsTo i) = 0 := by
      rw [List.countP_eq_zero]
      intro a ha
      split at ha
      · simp [Act.submitsTo_eq_false (startKeepalive_calm a ha)]
      · exact absurd ha (by simp)
    have hnext : (r.next.map (Act.slot id)).countP (Act.submitsTo i) = 0 := by
      rw [List.countP_eq_zero]
      intro a ha
      obtain ⟨after, -, rfl⟩ := List.mem_map.mp ha
      simp [Act.submitsTo, Act.submission]
    simp only [Device.effect, Device.nextActs, hcontrollers, applySection_control, hslot,
      List.countP_append, hstart, hnext, Bool.false_eq_true, if_false]
    cases hsubmit : r.submit with
    | false => simp
    | true => simp [countP_submission (haccepts hsubmit).1]
  · -- A submission goes to the handle that the section has read.
    simp only [Device.effect, Device.nextActs, List.mem_append] at hb
    rcases hb with (hb | hb) | hb
    · split at hb
      · rw [startKeepalive_calm b hb] at hsub
        exact absurd hsub (by simp)
      · exact absurd hb (by simp)
    · cases hsubmit : r.submit with
      | false => simp [hsubmit] at hb
      | true =>
          rw [hsubmit, if_pos rfl] at hb
          obtain ⟨live, hvhf, rfl⟩ := submission_handle hb
          obtain ⟨rfl, rfl⟩ := Prod.mk.inj (Option.some.inj hsub)
          refine ⟨hvhf, ?_, hown⟩
          rcases (haccepts hsubmit).2 with hstate | hstate
          · refine .inr ⟨hstate, ?_⟩
            cases m₁ with
            | none =>
                by_contra hk
                rw [(hquiet rfl (by simpa using hk)).1] at hsubmit
                exact absurd hsubmit (by simp)
            | some M =>
                have hp := (hst M rfl (.controller id)).settled (hrest M rfl)
                rcases hp.state_cases with h | h | h <;>
                  exact absurd (hstate.symm.trans h) (by simp)
          · exact .inl hstate
    · obtain ⟨after, -, rfl⟩ := List.mem_map.mp hb
      exact absurd hsub (by simp [Act.submission])
  · have hstart : Chain (Act.spec k) (if r.startKeepalive then startKeepalive else []) m₁ m₁ := by
      split
      · exact chain_startKeepalive
      · rfl
    have hsubmission : Chain (Act.spec k)
        (if r.submit then d.submission id r.status.isSome else []) m₁ m₁ := by
      split
      · refine chain_same fun a ha => ?_
        obtain ⟨live, -, rfl⟩ := submission_handle ha
        rfl
      · rfl
    have hnext : Chain (Act.spec k) (r.next.map (Act.slot id)) m₁ m₁ := by
      refine chain_same fun a ha => ?_
      obtain ⟨after, hafter, rfl⟩ := List.mem_map.mp ha
      refine ⟨rfl, hrest, fun hm hk => ?_, hown⟩
      rw [(hquiet hm hk).2] at hafter
      exact absurd hafter (by simp)
    exact (hstart.append hsubmission).append hnext

end Sections

section Tick

variable {now : UInt64}

theorem keepaliveTick_eq (d : Device) (now : UInt64) :
    (d.keepaliveTick now).gateHeld = d.gateHeld ∧
      (d.keepaliveTick now).controllers = (d.keepaliveSlots now).controllers ∧
      (d.keepaliveTick now).keyboardMouse = d.keyboardMouse ∧
      (d.keepaliveTick now).children = d.children := by
  unfold Device.keepaliveTick
  dsimp only
  split
  · exact ⟨rfl, rfl, rfl, rfl⟩
  · split
    · exact arm_eq (d := d.keepaliveSlots now) now
    · exact ⟨rfl, rfl, rfl, rfl⟩

theorem same_keepaliveTick (d : Device) (now : UInt64) (p : Place) :
    Same d (d.keepaliveTick now) p := by
  obtain ⟨-, hc, hk, hch⟩ := keepaliveTick_eq d now
  have hslot : ∀ i, ((d.keepaliveSlots now).controllers i).control.state =
      (d.controllers i).control.state ∧ ((d.keepaliveSlots now).controllers i).control.vhf =
        (d.controllers i).control.vhf ∧ ((d.keepaliveSlots now).controllers i).control.owner =
          (d.controllers i).control.owner := by
    intro i
    simp only [Device.keepaliveSlots, Device.mapSlots]
    split <;> exact ⟨rfl, rfl, rfl⟩
  refine ⟨?_, ?_, ?_, hch ▸ .refl _ _, hch ▸ .refl _ _⟩
  · cases p with
    | controller i => simp only [Device.stateAt, hc, (hslot i).1]
    | keyboardMouse => simp only [Device.stateAt, hk]
  · cases p with
    | controller i => simp only [Device.vhfAt, hc, (hslot i).2.1]
    | keyboardMouse => simp only [Device.vhfAt, hk]
  · cases p with
    | controller i => simp only [Device.ownerAt, hc, (hslot i).2.2]
    | keyboardMouse => simp only [Device.ownerAt, hk]

-- The submissions of a pass over the slots.
def Device.tickSubmissions (d : Device) (now : UInt64) : List Act :=
  (List.finRange maxControllers).flatMap fun id =>
    if (d.keepaliveResult now id).submit then d.submission id false else []

theorem vhf_of_tick {id : ControllerId} (h : (d.keepaliveResult now id).submit = true) :
    (d.controllers id).control.vhf.isSome = true ∧ (d.controllers id).control.state = .active :=
  keepaliveActive_state (keepaliveActive_of_submit h)

theorem countP_tick (d : Device) (now : UInt64) (i : ControllerId) :
    (d.tickSubmissions now).countP (Act.submitsTo i) =
      if (d.keepaliveResult now i).submit then 1 else 0 := by
  have hone : ∀ id, (if (d.keepaliveResult now id).submit then d.submission id false else []).countP
      (Act.submitsTo i) = if id = i then (if (d.keepaliveResult now i).submit then 1 else 0) else 0 := by
    intro id
    cases hsubmit : (d.keepaliveResult now id).submit with
    | false =>
        by_cases hid : id = i
        · subst hid
          simp [hsubmit]
        · simp [hid]
    | true =>
        rw [if_pos rfl, countP_submission (vhf_of_tick hsubmit).1]
        by_cases hid : id = i
        · subst hid
          simp [hsubmit]
        · have hne : ¬ i = id := fun heq => hid heq.symm
          simp [hid, hne]
  rw [Device.tickSubmissions, List.countP_flatMap]
  have hmap : (List.finRange maxControllers).map (List.countP (Act.submitsTo i) ∘ fun id =>
      if (d.keepaliveResult now id).submit then d.submission id false else []) =
      (List.finRange maxControllers).map fun id =>
        if id = i then (if (d.keepaliveResult now i).submit then 1 else 0) else 0 :=
    List.map_congr_left fun id _ => hone id
  rw [hmap, ← List.ofFn_eq_map, List.sum_ofFn, Finset.sum_ite_eq' Finset.univ i]
  simp

theorem submits_tick {threads : List Task} {regs : Registers} {o : Effect}
    (hspec : KeepaliveAct.tick.spec k m m₁)
    (hexec : KeepaliveAct.tick.exec threads d regs choice = some o) :
    Submits k d m m₁ (.keepalive .tick) o := by
  obtain ⟨rfl, hk⟩ := hspec
  have hafter : ∀ a ∈ (if d.anyActive choice.now then [Act.keepalive .wait]
      else [.keepalive .cancel, .keepalive .workerExit]), a.submission = none ∧ a.spec k m₁ m₁ := by
    intro a ha
    split at ha
    · obtain rfl := List.mem_singleton.mp ha
      exact ⟨rfl, rfl, hk⟩
    · simp only [List.mem_cons, List.not_mem_nil, or_false] at ha
      rcases ha with rfl | rfl <;> exact ⟨rfl, rfl⟩
  have ho : o = (d.keepaliveTick choice.now).effect regs (d.tickSubmissions choice.now ++
      if d.anyActive choice.now then [.keepalive .wait]
      else [.keepalive .cancel, .keepalive .workerExit]) := (Option.some.inj hexec).symm
  obtain ⟨hgate, hcontrollers, -, -⟩ := keepaliveTick_eq d choice.now
  subst ho
  refine ⟨hgate, same_keepaliveTick d choice.now, fun i => ?_, fun b hb i handle hsub => .inr ?_, ?_,
    rfl⟩
  · have hrest : (if d.anyActive choice.now then [Act.keepalive .wait]
        else [.keepalive .cancel, .keepalive .workerExit]).countP (Act.submitsTo i) = 0 := by
      rw [List.countP_eq_zero]
      intro a ha
      simp [Act.submitsTo_eq_false (hafter a ha).1]
    have hself : (Act.keepalive .tick).submitsTo i = false := rfl
    simp only [Device.effect, hcontrollers, List.countP_append, hrest, countP_tick, hself,
      Device.keepaliveSlots, Device.mapSlots, Bool.false_eq_true, if_false]
    split <;> simp
  · simp only [Device.effect, List.mem_append] at hb
    rcases hb with hb | hb
    · obtain ⟨id, -, hb⟩ := List.mem_flatMap.mp hb
      cases hsubmit : (d.keepaliveResult choice.now id).submit with
      | false => simp [hsubmit] at hb
      | true =>
          rw [hsubmit, if_pos rfl] at hb
          obtain ⟨live, hvhf, rfl⟩ := submission_handle hb
          obtain ⟨rfl, rfl⟩ := Prod.mk.inj (Option.some.inj hsub)
          refine ⟨hvhf, .inl (vhf_of_tick hsubmit).2, fun id' handle' c hkind => ?_⟩
          rw [hkind] at hk
          exact absurd hk (by simp [Operation.isCallback])
    · rw [(hafter b hb).1] at hsub
      exact absurd hsub (by simp)
  · have hfirst : Chain (Act.spec k) (d.tickSubmissions choice.now) m₁ m₁ := by
      refine chain_same fun a ha => ?_
      obtain ⟨id, -, ha⟩ := List.mem_flatMap.mp ha
      split at ha
      · obtain ⟨live, -, rfl⟩ := submission_handle ha
        rfl
      · exact absurd ha (by simp)
    exact hfirst.append (chain_same fun a ha => (hafter a ha).2)

end Tick

section Submission

variable {id : ControllerId} {handle : Handle} {answers : Bool}

theorem submits_submitEnter {regs : Registers} :
    Submits k d m m (.submitEnter id handle answers)
      (d.effect regs [.submitLeave id handle answers]) := by
  refine ⟨rfl, .refl d, fun i => ?_, fun b hb i h hsub => .inl ?_, .single rfl, rfl⟩
  · have hsame : (Act.submitLeave id handle answers).submitsTo i =
        (Act.submitEnter id handle answers).submitsTo i := rfl
    simp only [Device.effect, List.countP_cons, List.countP_nil, hsame, Nat.zero_add]
  · obtain rfl := List.mem_singleton.mp hb
    exact hsub

-- The counter is not zero while the submission is inside.
theorem submits_submitLeave {regs : Registers}
    (hcounted : 0 < (d.controllers id).control.submitsInFlight) :
    Submits k d m m (.submitLeave id handle answers)
      ((d.setControl id { (d.controllers id).control with
        submitsInFlight := (d.controllers id).control.submitsInFlight - 1 }).effect regs []) := by
  refine ⟨rfl, fun p => ?_, fun i => ?_, fun b hb => absurd hb (by simp [Device.effect]), rfl, rfl⟩
  · refine @same_control d id { d.controllers id with control := { (d.controllers id).control with
      submitsInFlight := (d.controllers id).control.submitsInFlight - 1 } } rfl rfl rfl p
  by_cases hi : i = id
  · subst hi
    have hself : (Act.submitLeave i handle answers).submitsTo i = true := by
      simp [Act.submitsTo, Act.submission]
    simp only [Device.effect, Device.setControl, setSlot_controllers_self, hself, if_true,
      List.countP_nil]
    omega
  · have hother : (Act.submitLeave id handle answers).submitsTo i = false := by
      have hne : ¬ id = i := fun heq => hi heq.symm
      simp [Act.submitsTo, Act.submission, hne]
    simp [Device.effect, Device.setControl, setSlot_controllers_of_ne hi, hother]

-- What a thread is submitting is counted.
theorem Ok.counted (hok : Ok held w) (hact : s.act.submission = some (id, handle)) :
    0 < (w.shared.controllers id).control.submitsInFlight := by
  rw [hok.inFlight id]
  refine Nat.pos_of_ne_zero fun hzero => ?_
  have hnone := (pending_eq_zero_iff _ _).mp hzero s.thread s.mem s.act
    (by rw [s.todo]; exact List.mem_cons_self)
  simp [Act.submitsTo, hact] at hnone

-- Once the counter is zero no submission is on its way.
theorem Ok.quiet_of_zero (hok : Ok held w) (hzero : (w.shared.controllers id).control.submitsInFlight = 0) :
    Quiet w.threads id handle := by
  rw [hok.inFlight id, pending_eq_zero_iff] at hzero
  rintro ⟨t, ht, a, ha, -, hsub⟩
  have hnone := hzero t ht a ha
  simp [Act.submitsTo, hsub] at hnone

end Submission

theorem kept_waitForSubmits {id : ControllerId} (ha : s.act = .waitForSubmits id) (hok : Ok held w)
    (hm : m = none ∨ m = held) (hspec : s.act.spec s.thread.kind m m₁) : KeptBy s held m m₁ := by
  have hexec := s.exec
  rw [ha] at hexec hspec
  obtain ⟨M, owner, handle, rfl, hM, rfl⟩ := hspec
  have hst := standings_some (hok.standings hm)
  have hzero : (w.shared.controllers id).control.submitsInFlight = 0 := by
    by_contra h
    simp [driver, Act.exec, h] at hexec
  have ho : s.outcome = w.shared.effect s.thread.regs [] := by
    simpa [driver, Act.exec, hzero] using hexec.symm
  have hp := hst (.controller id)
  rw [hM] at hp
  obtain ⟨howner, hstands, -⟩ := hp
  refine Steps.keptBy (.inr ⟨rfl, M.set (.controller id) (.busy owner (.drained handle)), ?_⟩)
    (by rw [ha]; rfl) hok hm
  rw [ho]
  refine ⟨rfl, fun p => ?_, fun _ => .inl rfl, fun _ _ _ hl => hl, by simp [Device.effect], rfl, rfl⟩
  by_cases hp : p = .controller id
  · subst hp
    rw [Mode.set_same]
    refine ⟨howner, hstands, fun i h hi hq => ?_⟩
    obtain rfl := Place.controller.inj hi
    exact hok.quiet_of_zero hzero
  · rw [Mode.set_of_ne hp]
    exact (hst p).congr (.refl _ p) fun _ _ hq => hq

section Delete

variable {handle : Handle} {M : Mode} {p : Place} {owner : Option File}

-- No thread touches the child but a callback of VHF for it.
theorem PlaceOk.live_of_quiet (hplace : PlaceOk w.shared (Quiet w.threads) p (.busy owner (.drained handle)) ∨
    PlaceOk w.shared (Quiet w.threads) p (.busy owner (.deleting handle)))
    {t : Task} (ht : t ∈ w'.threads) (hc : Calm s) {id : ControllerId}
    (htouch : touches t id handle) (hid : p = .controller id) : t.kind.isCallback = true := by
  have hquiet : Quiet w.threads id handle := by
    rcases hplace with ⟨-, -, hq⟩ | ⟨-, -, hq⟩ <;> exact hq id handle hid rfl
  obtain ⟨u, hu, hkind, hbefore⟩ := hc.touches_before ht htouch
  by_contra hno
  have huk : u.kind.isCallback = false := by
    rw [hkind]
    simpa using hno
  rcases hbefore with ⟨a, hamem, hsub⟩ | ⟨-, c, hcallback⟩
  · exact hquiet ⟨u, hu, a, hamem, huk, hsub⟩
  · rw [hcallback] at huk
    exact absurd huk (by simp [Operation.isCallback])

-- The children of the other places are untouched.
theorem same_setChild_ne {f : Child → Child} {c : Child} {q : Place}
    (hc : d.children[handle]? = some c) (hp : c.place = p) (hf : ∀ c, (f c).place = c.place)
    (hq : q ≠ p) : Same d (d.setChild handle f) q := by
  refine same_setChild fun c' hc' => ⟨hf c', fun hplace => ?_⟩
  rw [hc] at hc'
  obtain rfl := Option.some.inj hc'
  exact absurd (hplace.symm.trans hp) hq

-- A step of a deletion at the place: `f` counts a call or a return.
theorem kept_setChild {f : Child → Child} {stage stage' : Stage} (hm : m = some M)
    (hok : Ok (some M) w) (hM : M p = .busy owner stage)
    (ha : s.act.submission = none)
    (ho : s.outcome = (w.shared.setChild handle f).effect s.thread.regs [])
    (hf : ∀ c, (f c).place = c.place)
    (hlive : stage.standing.live = some handle)
    (hstate : stage'.standing.state = stage.standing.state)
    (hvhf : stage'.standing.vhf = stage.standing.vhf)
    (hquiet : ∀ h, stage'.quiet = some h → stage.quiet = some h)
    (hchildren : ChildrenAt w.shared.children p stage.standing.live stage.standing.calls →
      ChildrenAt (w.shared.setChild handle f).children p stage'.standing.live stage'.standing.calls)
    (htouch : ∀ t ∈ w'.threads, ∀ id, p = .controller id → touches t id handle → Calm s →
      Live w.shared id handle (!t.kind.isCallback) →
        Live (w.shared.setChild handle f) id handle (!t.kind.isCallback)) :
    KeptBy s held m (some (M.set p (.busy owner stage'))) := by
  have hplaces : ∀ q, PlaceOk w.shared (Quiet w.threads) q (M q) := hok.places
  have hp := hplaces p
  rw [hM] at hp
  obtain ⟨howner, hstands, hq⟩ := hp
  obtain ⟨c, hchild, hcp, -⟩ := hstands.children.live_at handle hlive
  have hc : Calm s := calm_of ha (by rw [ho]; simp [Device.effect]) (by rw [ho]; rfl)
  have hsh : w'.shared = w.shared.setChild handle f := by rw [s.shared_after, ho]; rfl
  have hsame : ∀ q, q ≠ p → Same w.shared w'.shared q := fun q hne => by
    rw [hsh]
    exact same_setChild_ne hchild hcp hf hne
  refine keptBy_inside hm ?_ (by rw [ho]; rfl) (by rw [ho]; rfl)
  refine hc.ok_of hok (by rw [hsh]; exact hok.gate) (fun q => ?_) (fun id => by rw [hsh]; rfl) ?_
  · show PlaceOk _ _ _ (M.set _ _ _)
    by_cases hne : q = p
    · subst hne
      rw [Mode.set_same, hsh]
      refine ⟨?_, ⟨?_, ?_, hchildren hstands.children⟩,
        fun id h hid hh => hc.quiet (hq id h hid (hquiet h hh))⟩
      · cases q <;> exact howner
      · rw [hstate]
        cases q <;> exact hstands.state
      · rw [hvhf]
        cases q <;> exact hstands.vhf
    · rw [Mode.set_of_ne hne]
      exact (hplaces q).congr (hsame q hne) fun _ _ => hc.quiet
  · intro t ht id h htouched hl
    by_cases hid : p = .controller id
    · by_cases hh : handle = h
      · subst hh
        rw [hsh]
        exact htouch t ht id hid htouched hc hl
      · obtain ⟨c', hc', hrest⟩ := hl
        refine ⟨c', ?_, hrest⟩
        rw [hsh]
        simp [Device.setChild, hh, hc']
    · exact hl.congr (hsame _ fun heq => hid heq.symm)

theorem getElem?_setChild {f : Child → Child} (h : Handle) :
    (d.setChild handle f).children[h]? =
      if handle = h then (d.children[h]?).map f else d.children[h]? := by
  simp only [Device.setChild, List.getElem?_modify]
  split <;> simp

theorem kept_deleteBegin (ha : s.act = .deleteBegin handle) (hok : Ok held w)
    (hm : m = none ∨ m = held) (hspec : s.act.spec s.thread.kind m m₁) : KeptBy s held m m₁ := by
  have hexec := s.exec
  rw [ha] at hexec hspec
  obtain ⟨M, p, owner, rfl, hM, rfl⟩ := hspec
  have hheld : held = some M := by
    rcases hm with hm | hm
    · simp at hm
    · exact hm.symm
  subst hheld
  have hplace := hok.places p
  have hphase : phaseAt (some M) p = .busy owner (.drained handle) := hM
  rw [hphase] at hplace
  have ho : s.outcome = (w.shared.setChild handle fun child =>
      { child with deleteCalls := child.deleteCalls + 1 }).effect s.thread.regs [] := by
    simpa [driver, Act.exec] using hexec.symm
  refine kept_setChild rfl hok hM (by rw [ha]; rfl) ho (fun _ => rfl) rfl rfl rfl (fun _ h => h) ?_ ?_
  · intro hchildren
    obtain ⟨c, hchild, hcp, hcalls, hreturns⟩ := hchildren.live_at handle rfl
    refine ⟨fun h hlive => ?_, fun h c' hc' hplace hne => ?_⟩
    · obtain rfl := Option.some.inj hlive
      exact ⟨{ c with deleteCalls := c.deleteCalls + 1 },
        by rw [getElem?_setChild, if_pos rfl, hchild]; rfl, hcp, congrArg (· + 1) hcalls, hreturns⟩
    · have hneq : handle ≠ h := fun heq => hne (by rw [heq]; rfl)
      rw [getElem?_setChild, if_neg hneq] at hc'
      exact hchildren.others h c' hc' hplace hne
  · -- Whoever still touches the child is a callback, which need not end before.
    intro t ht id hid htouch hc hlive
    have hcallback := PlaceOk.live_of_quiet (.inl hplace) ht hc htouch hid
    obtain ⟨c, hchild, hcp, hreturns, -⟩ := hlive
    refine ⟨{ c with deleteCalls := c.deleteCalls + 1 },
      by rw [getElem?_setChild, if_pos rfl, hchild]; rfl, hcp, hreturns, fun hno => ?_⟩
    rw [hcallback] at hno
    exact absurd hno (by simp)

-- By then the callbacks for the handle have returned, and nobody touches the child.
theorem kept_deleteEnd (ha : s.act = .deleteEnd handle) (hok : Ok held w)
    (hm : m = none ∨ m = held) (hspec : s.act.spec s.thread.kind m m₁) : KeptBy s held m m₁ := by
  have hexec := s.exec
  rw [ha] at hexec hspec
  obtain ⟨M, p, owner, rfl, hM, rfl⟩ := hspec
  have hheld : held = some M := by
    rcases hm with hm | hm
    · simp at hm
    · exact hm.symm
  subst hheld
  have hplace := hok.places p
  have hphase : phaseAt (some M) p = .busy owner (.deleting handle) := hM
  rw [hphase] at hplace
  obtain ⟨hidle, hentered⟩ : unfinished w.threads (Operation.isCallbackOf handle) = false ∧
      entering w.threads handle = false := by
    refine Bool.or_eq_false_iff.mp (Bool.eq_false_iff.mpr fun hwaits => ?_)
    simp only [driver, Act.exec, hwaits] at hexec
    exact absurd hexec (by simp)
  have ho : s.outcome = (w.shared.setChild handle fun child =>
      { child with deleteReturns := child.deleteReturns + 1 }).effect s.thread.regs [] := by
    simpa [driver, Act.exec, hidle, hentered] using hexec.symm
  refine kept_setChild rfl hok hM (by rw [ha]; rfl) ho (fun _ => rfl) rfl rfl rfl
    (fun _ h => absurd h (by simp [Stage.quiet])) ?_ ?_
  · intro hchildren
    obtain ⟨c, hchild, hcp, hcalls, hreturns⟩ := hchildren.live_at handle rfl
    refine ⟨fun h hlive => absurd hlive (by simp [Stage.standing, Standing.idle]),
      fun h c' hc' hplace _ => ?_⟩
    by_cases hneq : handle = h
    · subst hneq
      rw [getElem?_setChild, if_pos rfl, hchild] at hc'
      obtain rfl := Option.some.inj hc'
      exact ⟨hcalls, congrArg (· + 1) hreturns⟩
    · rw [getElem?_setChild, if_neg hneq] at hc'
      exact hchildren.others h c' hc' hplace fun heq => hneq (Option.some.inj heq)
  · intro t ht id hid htouch hc hlive
    have hcallback := PlaceOk.live_of_quiet (.inr hplace) ht hc htouch hid
    obtain ⟨u, hu, hkind, hbefore⟩ := hc.touches_before ht htouch
    -- A callback with something left to do is one of another handle.
    have hother : ∀ c, u.kind = .callback id handle c → u.todo ≠ [] → False := by
      intro c hkind' htodo
      have hall := List.any_eq_false.mp hidle u hu
      simp [Operation.isCallbackOf, hkind', htodo] at hall
    rcases hbefore with ⟨a, hamem, hsub⟩ | ⟨htodo, c, hkind'⟩
    · have hown := (hok.submits u hu a hamem id handle hsub).2
      rw [← hkind] at hcallback
      cases hu' : u.kind with
      | callback id' handle' c =>
          obtain ⟨rfl, rfl⟩ := hown id' handle' c hu'
          exact (hother c hu' (List.ne_nil_of_mem hamem)).elim
      | _ =>
          rw [hu'] at hcallback
          exact absurd hcallback (by simp [Operation.isCallback])
    · exact (hother c hkind' htodo).elim

end Delete

-- A handle that is not given out yet is in nobody's hands.
theorem Ok.quiet_fresh (hok : Ok held w) (id : ControllerId) {handle : Handle}
    (h : w.shared.children.length ≤ handle) : Quiet w.threads id handle := by
  rintro ⟨t, ht, a, ha, -, hsub⟩
  obtain ⟨⟨c, hc, -⟩, -⟩ := hok.submits t ht a ha id handle hsub
  have hlt := (List.getElem?_eq_some_iff.mp hc).1
  omega

theorem kept_act (hok : Ok held w) (hm : m = none ∨ m = held)
    (hspec : s.act.spec s.thread.kind m m₁) : KeptBy s held m m₁ := by
  have hexec := s.exec
  have hst := hok.standings hm
  cases ha : s.act with
  | lockLifetime => exact kept_lockLifetime ha hok hm hspec
  | unlockLifetime => exact kept_unlockLifetime ha hok hm hspec
  | waitForSubmits id => exact kept_waitForSubmits ha hok hm hspec
  | deleteBegin handle => exact kept_deleteBegin ha hok hm hspec
  | deleteEnd handle => exact kept_deleteEnd ha hok hm hspec
  | reply status output =>
      rw [ha] at hexec hspec
      obtain rfl : m₁ = m := hspec
      refine Still.keptBy ?_ (by rw [ha]; rfl) hok hm
      rw [← Option.some.inj hexec]
      exact .done (.refl _)
  | slot id step =>
      rw [ha] at hexec hspec
      refine Submits.keptBy ?_ hok hm
      rw [ha, ← Option.some.inj hexec]
      exact submits_slot hspec hst
  | submitEnter id handle answers =>
      rw [ha] at hexec hspec
      obtain rfl : m₁ = m := hspec
      refine Submits.keptBy ?_ hok hm
      rw [ha, ← Option.some.inj hexec]
      exact submits_submitEnter
  | submitLeave id handle answers =>
      have hsub : s.act.submission = some (id, handle) := by
        rw [ha]
        rfl
      have hcounted := hok.counted hsub
      rw [ha] at hexec hspec
      obtain rfl : m₁ = m := hspec
      refine Submits.keptBy ?_ hok hm
      rw [ha, ← Option.some.inj hexec]
      exact submits_submitLeave hcounted
  | target act =>
      rw [ha] at hexec hspec
      obtain rfl : m₁ = m := hspec
      refine Still.keptBy ?_ (by rw [ha]; rfl) hok hm
      rw [← Option.some.inj hexec]
      exact target_still _ _ _ act
  | create id owner profile act =>
      rw [ha] at hexec hspec
      refine Steps.keptBy ?_ (by rw [ha]; rfl) hok hm
      rw [← Option.some.inj hexec]
      exact create_steps hspec hst fun i h hle => hok.quiet_fresh i hle
  | destroy id owner act =>
      rw [ha] at hexec hspec
      refine Steps.keptBy ?_ (by rw [ha]; rfl) hok hm
      rw [← Option.some.inj hexec]
      exact destroy_steps hspec hst
  | power act =>
      rw [ha] at hexec hspec
      refine Steps.keptBy ?_ (by rw [ha]; rfl) hok hm
      rw [← Option.some.inj hexec]
      exact power_steps hspec hst
  | keepalive act =>
      rw [ha] at hexec hspec
      by_cases htick : act = .tick
      · subst htick
        refine Submits.keptBy ?_ hok hm
        rw [ha]
        exact @submits_tick choice m m₁ s.thread.kind w.shared w.threads s.thread.regs s.outcome hspec
          hexec
      · exact (keepalive_still htick hspec hexec).keptBy (by rw [ha]; rfl) hok hm
  | keyboardMouse act =>
      rw [ha] at hexec hspec
      exact (keyboardMouse_steps hspec hst hexec).keptBy (by rw [ha]; rfl) hok hm

-- The acts that an operation may begin with.
inductive Starts : Operation → Act → Prop where
  | lock (k : Operation) : Starts k .lockLifetime
  | unlock (k : Operation) : Starts k .unlockLifetime
  | reply (k : Operation) (status : NtStatus) (output : Output) : Starts k (.reply status output)
  | slot (k : Operation) (id : ControllerId) (step : SlotStep) : Starts k (.slot id step)
  | create (owner : File) (request : CreateControllerRequest) (id : ControllerId) (profile : Profile) :
      Starts (.request (some owner) (.create request)) (.create id owner profile .check)
  | destroy (k : Operation) (id : ControllerId) (owner : File) : Starts k (.destroy id owner .check)
  | detach (k : Operation) (id : ControllerId) (owner : File) : Starts k (.destroy id owner .detach)
  | power (k : Operation) (act : PowerAct) (hk : k.isRequest = false) : Starts k (.power act)
  | wait (k : Operation) : Starts k (.keepalive .wait)
  | authorize (owner : File) (request : KeyboardMouseRequest) :
      Starts (.request (some owner) (.keyboardMouse request)) (.keyboardMouse (.authorize owner request))
  | cleanupIntent (k : Operation) (owner : File) (hk : k.isRequest = false) :
      Starts k (.keyboardMouse (.cleanupIntent owner))
  | cleanupStop (k : Operation) (owner : File) : Starts k (.keyboardMouse (.cleanupStop owner))
  | readyEnter (handle : Handle) (context : Nat) :
      Starts (.keyboardMouseReady handle context) (.keyboardMouse (.readyEnter context))

theorem starts_gated {k : Operation} {acts : List Act} (h : ∀ a ∈ acts, Starts k a) :
    ∀ a ∈ gated acts, Starts k a := by
  intro a ha
  simp only [gated, List.cons_append, List.nil_append, List.mem_cons, List.mem_append,
    List.not_mem_nil, or_false] at ha
  rcases ha with rfl | ha | rfl
  · exact .lock k
  · exact h a ha
  · exact .unlock k

theorem starts_single {k : Operation} {b : Act} (h : Starts k b) : ∀ a ∈ [b], Starts k a := by
  intro a ha
  rw [List.mem_singleton.mp ha]
  exact h

theorem starts_withSlot {k : Operation} {id : UInt32} {program : ControllerId → List Act}
    (h : ∀ id, ∀ a ∈ program id, Starts k a) : ∀ a ∈ withSlot id program, Starts k a := by
  intro a ha
  unfold withSlot at ha
  split at ha
  · exact h _ a ha
  · exact starts_single (.reply k _ _) a ha

theorem starts_stateUpdate {k : Operation} {owner : File} {id : UInt32} {update : StateUpdate} :
    ∀ a ∈ stateUpdate owner id update, Starts k a :=
  starts_gated (starts_withSlot fun id => starts_single (.slot k id _))

theorem starts_request {owner : File} {request : Request} :
    ∀ a ∈ request.program owner, Starts (.request (some owner) request) a := by
  have hreply : ∀ k status output, ∀ a ∈ [Act.reply status output], Starts k a :=
    fun k status output => starts_single (.reply k status output)
  cases request with
  | query id =>
      cases id with
      | none => exact hreply _ _ _
      | some id => exact starts_withSlot fun id => starts_single (.slot _ id _)
  | create request =>
      refine starts_withSlot fun id => ?_
      split
      · exact hreply _ _ _
      · split
        · exact hreply _ _ _
        · exact starts_single (.create owner request id _)
  | destroy id => exact starts_withSlot fun id => starts_single (.destroy _ id owner)
  | input request =>
      refine starts_withSlot fun id => ?_
      split
      · exact hreply _ _ _
      · exact starts_gated (starts_single (.slot _ id _))
  | touch request | motion request | battery request =>
      simp only [Request.program]
      split
      · exact hreply _ _ _
      · exact starts_stateUpdate
  | attributes request | poll request => exact starts_withSlot fun id => starts_single (.slot _ id _)
  | keyboardMouse request => exact starts_single (.authorize owner request)

theorem starts_append {k : Operation} {xs ys : List Act} (hx : ∀ a ∈ xs, Starts k a)
    (hy : ∀ a ∈ ys, Starts k a) : ∀ a ∈ xs ++ ys, Starts k a := by
  intro a ha
  rcases List.mem_append.mp ha with ha | ha
  · exact hx a ha
  · exact hy a ha

theorem starts_keyboardMouseFileCleanup {k : Operation} (hk : k.isRequest = false) {owner : File} :
    ∀ a ∈ keyboardMouseFileCleanup owner, Starts k a :=
  starts_append (starts_single (.cleanupIntent k owner hk)) (starts_gated (starts_single (.cleanupStop k owner)))

theorem starts_transition {k : Operation} (hk : k.isRequest = false) {intent mark : PowerAct} :
    ∀ a ∈ .power intent :: gated [.power mark], Starts k a :=
  starts_append (starts_single (.power k intent hk)) (starts_gated (starts_single (.power k mark hk)))

theorem program_starts {operation : Operation} : ∀ a ∈ operation.program, Starts operation a := by
  cases operation with
  | request owner request =>
      cases owner with
      | none => exact starts_single (.reply _ _ _)
      | some owner => exact starts_request
  | fileCleanup owner => exact starts_keyboardMouseFileCleanup rfl
  | fileClose owner =>
      refine starts_append (starts_keyboardMouseFileCleanup rfl) fun a ha => ?_
      obtain ⟨id, -, ha⟩ := List.mem_flatMap.mp ha
      exact starts_gated (starts_single (.detach _ id owner)) a ha
  | callback id handle c => exact starts_single (.slot _ id _)
  | keyboardMouseReady handle context => exact starts_single (.readyEnter handle context)
  | keepaliveWorker => exact starts_single (.wait _)
  | d0Entry => exact starts_gated (starts_single (.power _ _ rfl))
  | d0Exit => exact starts_append (starts_transition rfl) (starts_single (.reply _ _ _))
  | prepareHardware =>
      exact starts_append (starts_gated (starts_single (.power _ _ rfl))) (starts_single (.reply _ _ _))
  | releaseHardware => exact starts_append (starts_transition rfl) (starts_gated (starts_single (.power _ _ rfl)))
  | targetCleanup => exact starts_transition rfl

-- No operation starts with a submission on its way.
theorem program_calm (operation : Operation) : ∀ a ∈ operation.program, a.submission = none := by
  intro a ha
  cases program_starts a ha <;> rfl

-- A stimulus starts one operation at most, and touches no lifecycle.
theorem kept_environment {stimulus : Stimulus} {out : Device × List Task}
    (h : stimulus.run w.threads w.shared = some out) (hok : Ok held w) :
    (∀ t ∈ out.2, Chain (Act.spec t.kind) t.todo none none) ∧
      Ok held { shared := out.1, threads := w.threads ++ out.2 } := by
  -- What starts has no submission on its way, and its own child is live.
  have hstarts : ∀ (d : Device) (new : List Task), Untouched w.shared d →
      (∀ t ∈ new, ∃ operation : Operation, t = operation.start ∧
        ∀ id handle c, operation = .callback id handle c → Live d id handle false) →
      (∀ t ∈ new, Chain (Act.spec t.kind) t.todo none none) ∧
        Ok held { shared := d, threads := w.threads ++ new } := by
    intro d new hu hnew
    have hcalm : ∀ t ∈ new, ∀ a ∈ t.todo, a.submission = none := by
      intro t ht a ha
      obtain ⟨operation, rfl, -⟩ := hnew t ht
      exact program_calm operation a ha
    refine ⟨fun t ht => ?_, hu.gate.trans hok.gate, fun p => ?_, fun id => ?_, ?_, ?_⟩
    · obtain ⟨operation, rfl, -⟩ := hnew t ht
      exact chain_program operation
    · refine (hok.places p).congr (hu.places p) fun id handle hq => ?_
      rintro ⟨t, ht, a, ha, hk, hsub⟩
      rcases List.mem_append.mp ht with ht | ht
      · exact hq ⟨t, ht, a, ha, hk, hsub⟩
      · rw [hcalm t ht a ha] at hsub
        exact absurd hsub (by simp)
    · have hzero : pending (fun _ a => a.submitsTo id) new = 0 := by
        rw [pending_eq_zero_iff]
        intro t ht a ha
        exact Act.submitsTo_eq_false (hcalm t ht a ha) id
      rw [pending_append, hzero, Nat.add_zero]
      exact (hu.inFlight id).trans (hok.inFlight id)
    · intro t ht a ha id handle hsub
      rcases List.mem_append.mp ht with ht | ht
      · obtain ⟨hlive, hown⟩ := hok.submits t ht a ha id handle hsub
        exact ⟨hlive.congr (hu.places _), hown⟩
      · rw [hcalm t ht a ha] at hsub
        exact absurd hsub (by simp)
    · intro t ht htodo id handle c hkind
      rcases List.mem_append.mp ht with ht | ht
      · exact (hok.callbacks t ht htodo id handle c hkind).congr (hu.places _)
      · obtain ⟨operation, rfl, hlive⟩ := hnew t ht
        exact hlive id handle c hkind
  cases stimulus with
  | timerFires =>
      simp only [Stimulus.run] at h
      split at h
      · obtain rfl := Option.some.inj h
        exact hstarts _ [] (untouched_keepalive _) (by simp)
      · exact absurd h (by simp)
  | start operation =>
      simp only [Stimulus.run] at h
      split at h
      · rename_i hmay
        obtain rfl := Option.some.inj h
        refine hstarts _ _ (.refl _) fun t ht => ⟨operation, List.mem_singleton.mp ht, ?_⟩
        rintro id handle c rfl
        simp only [Device.mayStart, Device.callable] at hmay
        split at hmay
        · rename_i child hchild
          simp only [Bool.and_eq_true, beq_iff_eq] at hmay
          exact ⟨child, hchild, hmay.1.1.1, hmay.2, fun hno => absurd hno (by simp)⟩
        · exact absurd hmay (by simp)
      · exact absurd h (by simp)

-- The discipline in a world: who holds the gate, and how every place stands for it.
abbrev Disciplined (w : World) : Prop := Locked Act.spec Ok w

theorem Disciplined.step {event : Event Choice Stimulus} (h : Disciplined w)
    (hstep : driver.step w event = some w') : Disciplined w' := by
  cases event with
  | act i choice => exact h.act hstep fun s held m m₁ hm hok hspec => kept_act hok hm hspec
  | env stimulus =>
      exact h.environment hstep fun out held hout hok => kept_environment hout hok

theorem disciplined_initial (keepalive : Bool) : Disciplined (World.initial keepalive) := by
  refine ⟨none, ⟨rfl, fun p => ?_, fun id => rfl, ?_, ?_⟩, by simp, ?_⟩
  · refine .inl ⟨.empty, .inl rfl, ?_, ?_, ?_⟩
    · cases p <;> rfl
    · cases p <;> rfl
    · exact ⟨fun h hlive => absurd hlive (by simp [Standing.idle]),
        fun h c hc => absurd hc (by simp [World.initial, Device.added])⟩
  · intro t ht
    exact absurd ht (by simp [World.initial])
  · intro t ht
    exact absurd ht (by simp [World.initial])
  · intro i t ht
    exact absurd ht (by simp [World.initial])

theorem Reaches.disciplined {keepalive : Bool} (h : driver.Reaches (World.initial keepalive) w) :
    Disciplined w :=
  System.Reaches.invariant h (fun _ _ _ hw hstep => hw.step hstep) (disciplined_initial keepalive)

section Heads

variable {i : Nat} {t : Task} {a : Act} {rest : List Act}

-- The act that a thread does next has the mode it needs.
theorem Disciplined.at_head (h : Disciplined w) (ht : w.threads[i]? = some t)
    (htodo : t.todo = a :: rest) :
    ∃ m m₁, a.spec t.kind m m₁ ∧ Standings w.shared (Quiet w.threads) m := by
  obtain ⟨holder, h⟩ := h
  have hown := h.chains i t ht
  rw [htodo] at hown
  obtain ⟨m₁, hspec, -⟩ := hown
  exact ⟨modeOf holder i, m₁, hspec, h.shared.standings (modeOf_eq_none_or holder i)⟩

-- While one thread is at an act that needs the gate the others run without it.
theorem Disciplined.alone (h : Disciplined w) (ht : w.threads[i]? = some t)
    (htodo : t.todo = a :: rest) (hneeds : ∀ m m₁, a.spec t.kind m m₁ → m.isSome) {j : Nat}
    {u : Task} {b : Act} {rest' : List Act} (hj : j ≠ i) (hu : w.threads[j]? = some u)
    (hutodo : u.todo = b :: rest') : ∃ m₁, b.spec u.kind none m₁ := by
  obtain ⟨holder, h⟩ := h
  have hown := h.chains i t ht
  have hother := h.chains j u hu
  rw [htodo] at hown
  rw [hutodo] at hother
  obtain ⟨_, hspec, -⟩ := hown
  obtain ⟨m₁, hspec', -⟩ := hother
  obtain ⟨M, hM⟩ := Option.isSome_iff_exists.mp (hneeds _ _ hspec)
  have hnone : modeOf holder j = none := by
    rw [holder_of_modeOf hM]
    simp [modeOf, hj]
  exact ⟨m₁, hnone ▸ hspec'⟩

end Heads

end LibVirtualGamepad
