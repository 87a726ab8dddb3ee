import LibVirtualGamepad.Driver.NativePump.Runs

-- Out of D0: once a power-down or a stop of the device has returned nothing is live, and
-- nothing comes to life before the device is let run again.
namespace LibVirtualGamepad

open Interleaving

-- Only then a place is taken.
def Device.running (d : Device) : Bool := !d.stopping && d.powered

def Device.openAt (d : Device) (p : Place) : Prop :=
  d.stateAt p = .starting ∨ d.stateAt p = .active

-- No place is in use, and of every child that was created the deletion has returned.
structure Device.Dark (d : Device) : Prop where
  shut : ∀ p, ¬d.openAt p
  deleted : ∀ (handle : Handle) (child : Child), d.children[handle]? = some child →
    child.deleteCalls = 1 ∧ child.deleteReturns = 1

section Opening

variable {d d' : Device} {p : Place} {id : ControllerId} {owner : File} {profile : Profile}
  {regs : Registers} {choice : Choice} {threads : List Task} {k : Operation} {a : Act} {o : Effect}

theorem openAt_of_eq (hc : d'.controllers = d.controllers) (hk : d'.keyboardMouse = d.keyboardMouse)
    (h : d'.openAt p) : d.openAt p := by
  have hstate : d'.stateAt p = d.stateAt p := by
    cases p with
    | controller i => rw [Device.stateAt, Device.stateAt, hc]
    | keyboardMouse => rw [Device.stateAt, Device.stateAt, hk]
  rwa [Device.openAt, hstate] at h

theorem openAt_setSlot {slot : Slot} (h : (d.setSlot id slot).openAt p)
    (hslot : slot.control.state = .starting ∨ slot.control.state = .active →
      d.openAt (.controller id)) : d.openAt p := by
  cases p with
  | controller i =>
    by_cases hi : i = id
    · subst hi
      refine hslot ?_
      simpa [Device.openAt, Device.stateAt] using h
    · simpa only [Device.openAt, Device.stateAt, setSlot_controllers_of_ne hi] using h
  | keyboardMouse => exact h

theorem openAt_mapSlots {f : ControllerId → Slot → Slot} (hslots : d'.controllers = d.controllers)
    (hf : ∀ id slot, (f id slot).control.state = slot.control.state ∨
      ((f id slot).control.state ≠ .starting ∧ (f id slot).control.state ≠ .active))
    (hkm : d'.keyboardMouse.isOpen → d.keyboardMouse.isOpen) (h : (d'.mapSlots f).openAt p) :
    d.openAt p := by
  cases p with
  | controller i =>
    simp only [Device.openAt, Device.stateAt, Device.mapSlots, hslots] at h ⊢
    obtain hsame | ⟨hstarting, hactive⟩ := hf i (d.controllers i)
    · rwa [hsame] at h
    · obtain h | h := h
      · exact absurd h hstarting
      · exact absurd h hactive
  | keyboardMouse => exact hkm h

theorem create_openAt {act : CreateAct}
    (h : (act.exec d regs choice id owner profile).shared.openAt p) :
    d.openAt p ∨ d.running = true := by
  cases act with
  | check =>
    simp only [CreateAct.exec] at h
    split at h <;> exact .inl (openAt_of_eq rfl rfl h)
  | begin generation childPresent =>
    simp only [CreateAct.exec] at h
    split at h
    · exact .inl (openAt_of_eq rfl rfl h)
    · rename_i hnone
      obtain ⟨hstopping, hpowered, -⟩ := createRefusal_none hnone
      exact .inr (by rw [Device.running, hstopping, hpowered]; rfl)
  | targetOpened | readFile | vhfCreate =>
    simp only [CreateAct.exec] at h
    split at h <;> exact .inl (openAt_of_eq rfl rfl h)
  | publish handle => exact .inl (openAt_setSlot h fun hstate => hstate)
  | adopt handle =>
    simp only [CreateAct.exec] at h
    split at h
    · rename_i hadopted
      simp only [Bool.and_eq_true, beq_iff_eq] at hadopted
      exact .inl (openAt_setSlot h fun _ => .inl hadopted.2)
    · -- Outside the adoption the slot is stopping.
      rw [Device.effect, clearFeedbackPending_setControl] at h
      exact .inl (openAt_setSlot h fun hstate => by simp at hstate)
  | release =>
    simp only [CreateAct.exec, Device.effect, Device.releaseStartingSlot] at h
    split at h
    · exact .inl (openAt_setSlot h fun hstate => by simp [Slot.reset] at hstate)
    · exact .inl h
  | _ => exact .inl (openAt_of_eq rfl rfl h)

theorem destroy_openAt {act : DestroyAct} (h : (act.exec d regs id owner).shared.openAt p) :
    d.openAt p := by
  have hreset (h : (d.resetSlot id).openAt p) : d.openAt p :=
    openAt_setSlot h fun hstate => by simp [Slot.reset] at hstate
  cases act with
  | check =>
    simp only [DestroyAct.exec] at h
    repeat' split at h
    all_goals exact openAt_of_eq rfl rfl h
  | detach =>
    simp only [DestroyAct.exec] at h
    split at h
    · exact h
    split at h
    · exact openAt_setSlot h fun hstate => by simp at hstate
    split at h
    · exact hreset h
    · rw [Device.effect, discardFeedback_setControl] at h
      exact openAt_setSlot h fun hstate => by simp at hstate
  | finish =>
    simp only [DestroyAct.exec] at h
    split at h
    · exact hreset h
    · exact h

theorem power_openAt {act : PowerAct} (h : (act.exec d regs).shared.openAt p) : d.openAt p := by
  have hclosed : d.stopTimer.stopKeyboardMouseAdmission.keyboardMouse.isOpen →
      d.keyboardMouse.isOpen :=
    fun hopen => absurd hopen not_open_stopAdmission
  cases act with
  | stopMark forgetTarget =>
    refine openAt_mapSlots stopTimer_stop_eq.1 (fun _ slot => ?_) hclosed
      (show (d.stopTimer.stopKeyboardMouseAdmission.mapSlots _).openAt p from h)
    cases hstate : slot.control.state <;> simp [Slot.stopped, hstate, Slot.reset]
  | downMark =>
    refine openAt_mapSlots stopTimer_stop_eq.1 (fun id slot => ?_) hclosed
      (show (d.stopTimer.stopKeyboardMouseAdmission.mapSlots fun id slot =>
        slot.takenDown (d.controllers id).poweredDown.isSome).openAt p from h)
    unfold Slot.takenDown
    split
    · exact .inr (by simp)
    · exact .inl rfl
  | stopCollect forgetTarget =>
    replace h : (d.mapSlots fun _ slot => slot.detached).openAt p := openAt_of_eq rfl rfl h
    refine openAt_mapSlots rfl (fun _ slot => .inl ?_) id h
    unfold Slot.detached
    split <;> rfl
  | stopRelease id => exact openAt_setSlot h fun hstate => by simp [Slot.reset] at hstate
  | downDetach handles =>
    refine openAt_mapSlots rfl (fun id slot => .inl ?_) id
      (show (d.mapSlots fun id slot => slot.unpublished (handles id).isSome).openAt p from h)
    unfold Slot.unpublished
    split <;> rfl
  | downFinish handles =>
    refine openAt_mapSlots rfl (fun id slot => ?_) id
      (show (d.mapSlots fun id slot => slot.lostAfterDelete (handles id).isSome).openAt p from h)
    unfold Slot.lostAfterDelete
    split
    · exact .inr (by simp)
    · exact .inl rfl
  | _ => exact openAt_of_eq rfl rfl h

theorem keyboardMouse_openAt {act : KeyboardMouseAct} (h : act.exec d regs choice = some o)
    (hopen : o.shared.openAt p) : d.openAt p ∨ d.running = true := by
  cases p with
  | controller i =>
    have hcontrollers := (keyboardMouse_only h).1.controllers
    exact .inl (by simpa only [Device.openAt, Device.stateAt, hcontrollers] using hopen)
  | keyboardMouse =>
    cases act with
    | openBegin owner generation childPresent =>
      cases hlive : d.keyboardMouseLive owner with
      | true =>
        simp only [Device.keyboardMouseLive, Bool.and_eq_true] at hlive
        exact .inr (by rw [Device.running, Bool.and_eq_true]; exact hlive.1)
      | false =>
        simp only [KeyboardMouseAct.exec, hlive, Bool.not_false, if_true] at h
        cases h
        exact .inl hopen
    | _ =>
      have hstays := keyboardMouse_stays h (by simp)
      exact .inl (hstays.isOpen hopen)

-- A place is taken by a creation or an opening that finds the device running.
theorem exec_openAt (h : a.exec threads d k regs choice = some o) (hopen : o.shared.openAt p) :
    d.openAt p ∨ d.running = true := by
  cases hmanages : a.manages with
  | false =>
    have hsame := Act.control_of_not_manages hmanages h
    refine .inl ?_
    cases p with
    | controller i =>
      simpa only [Device.openAt, Device.stateAt, (hsame.lifecycle i).state] using hopen
    | keyboardMouse =>
      simpa only [Device.openAt, Device.stateAt, hsame.keyboardMouse.slot] using hopen
  | true =>
    cases a with
    | create id owner profile act =>
      cases h
      exact create_openAt hopen
    | destroy id owner act =>
      cases h
      exact .inl (destroy_openAt hopen)
    | power act =>
      cases h
      exact .inl (power_openAt hopen)
    | keyboardMouse act => exact keyboardMouse_openAt h hopen
    | _ => cases hmanages

theorem switches_of_not_power (h : a.exec threads d k regs choice = some o)
    (ha : ∀ act, a ≠ .power act) :
    o.shared.powered = d.powered ∧ o.shared.stopping = d.stopping := by
  cases a with
  | create id owner profile act =>
    cases h
    exact ⟨(create_only act).powered, (create_only act).stopping⟩
  | destroy id owner act =>
    cases h
    exact ⟨(destroy_only act).powered, (destroy_only act).stopping⟩
  | power act => exact absurd rfl (ha act)
  | keyboardMouse act =>
    have honly := (keyboardMouse_only h).1
    exact ⟨honly.powered, honly.stopping⟩
  | _ =>
    have hcontrol := Act.control_of_not_manages rfl h
    exact ⟨hcontrol.powered, hcontrol.stopping⟩

theorem unpowered_stays (h : a.exec threads d k regs choice = some o) (ha : a ≠ .power .d0Entry)
    (hpowered : d.powered = false) : o.shared.powered = false := by
  cases a with
  | power act =>
    cases h
    cases act with
    | d0Entry => exact absurd rfl ha
    | stopIntent | downIntent => rfl
    | stopMark forgetTarget | downMark =>
      exact (only_stopAdmission (d := d.stopTimer)).powered.trans hpowered
    | _ => exact hpowered
  | _ => exact (switches_of_not_power h (by simp)).1.trans hpowered

theorem stopping_stays (h : a.exec threads d k regs choice = some o) (ha : a ≠ .power .prepare)
    (hstopping : d.stopping = true) : o.shared.stopping = true := by
  cases a with
  | power act =>
    cases h
    cases act with
    | prepare => exact absurd rfl ha
    | stopIntent => rfl
    | stopMark forgetTarget | downMark =>
      exact (only_stopAdmission (d := d.stopTimer)).stopping.trans hstopping
    | _ => exact hstopping
  | _ => exact (switches_of_not_power h (by simp)).2.trans hstopping

def Act.createsChild : Act → Bool
  | .create _ _ _ .vhfCreate | .keyboardMouse (.vhfCreate _ _) => true
  | _ => false

theorem children_length (h : a.exec threads d k regs choice = some o)
    (ha : a.createsChild = false) : o.shared.children.length = d.children.length := by
  cases a with
  | slot id step =>
    cases h
    exact congrArg List.length (afterSection_eq d id _ _).2.2.2
  | deleteBegin handle =>
    cases h
    exact List.length_modify ..
  | deleteEnd handle =>
    simp only [Act.exec] at h
    split at h <;> cases h
    exact List.length_modify ..
  | lockLifetime | waitForSubmits id =>
    simp only [Act.exec] at h
    split at h <;> cases h
    rfl
  | target act =>
    cases h
    cases act <;> simp only [TargetAct.exec] <;> (repeat' split) <;> rfl
  | create id owner profile act =>
    cases h
    cases act with
    | vhfCreate => cases ha
    | start handle => exact List.length_modify ..
    | release =>
      simp only [CreateAct.exec, Device.effect, Device.releaseStartingSlot]
      split <;> rfl
    | _ =>
      simp only [CreateAct.exec]
      repeat' split
      all_goals rfl
  | destroy id owner act =>
    cases h
    cases act <;> simp only [DestroyAct.exec] <;> (repeat' split) <;> rfl
  | power act =>
    cases h
    cases act with
    | stopMark forgetTarget | downMark =>
      exact congrArg List.length (children_stopAdmission (d := d.stopTimer))
    | _ => rfl
  | keepalive act =>
    cases act with
    | tick =>
      cases h
      exact congrArg List.length (keepaliveTick_eq d _).2.2.2
    | _ =>
      simp only [Act.exec, KeepaliveAct.exec] at h
      repeat' split at h
      all_goals cases h
      all_goals rfl
  | keyboardMouse act =>
    replace h : act.exec d regs choice = some o := h
    cases act with
    | vhfCreate owner context => cases ha
    | start owner context handle =>
      cases h
      exact List.length_modify ..
    | release lostOwner context =>
      cases h
      refine congrArg List.length ((children_freeContext _).trans ?_)
      split <;> rfl
    | _ =>
      simp only [KeyboardMouseAct.exec] at h
      repeat' split at h
      all_goals cases h
      all_goals first
        | rfl
        | exact congrArg List.length children_stopAdmission
  | _ =>
    cases h
    rfl

end Opening

section World

variable {w w' : World} {i : Nat} {choice : Choice}

theorem shut_step {event : Event Choice Stimulus} (hshut : ∀ p, ¬w.shared.openAt p)
    (hrunning : w.shared.running = false) (hstep : driver.step w event = some w') :
    ∀ p, ¬w'.shared.openAt p := by
  intro p hopen
  cases event with
  | act i choice =>
    obtain ⟨s⟩ := System.actStep_of_step hstep
    rw [s.shared_after] at hopen
    obtain hbefore | hyes := exec_openAt (k := s.thread.kind) s.exec hopen
    · exact hshut p hbefore
    · rw [hrunning] at hyes
      cases hyes
  | env stimulus =>
    obtain ⟨keepalive, hshared, -⟩ | ⟨operation, -, hshared, -⟩ := environment_cases hstep
    · rw [hshared] at hopen
      exact hshut p (openAt_of_eq rfl rfl hopen)
    · rw [hshared] at hopen
      exact hshut p hopen

-- Only a thread that has taken its place creates a child.
theorem not_createsChild (hd : Disciplined w) (hshut : ∀ p, ¬w.shared.openAt p)
    (s : System.ActStep driver w i choice w') : s.act.createsChild = false := by
  obtain ⟨m, m₁, hspec, hst⟩ := hd.at_head s.at_index s.todo
  have hbusy {p : Place} {owner : File} (hm : m = some (.busyAt p owner .starting)) : False := by
    have hplace := hst _ hm p
    rw [Mode.busyAt_same] at hplace
    obtain ⟨-, hstands, -⟩ := hplace
    exact hshut p (.inl hstands.state)
  cases hact : s.act with
  | create id owner profile act =>
    rw [hact] at hspec
    cases act with
    | vhfCreate => exact (hbusy hspec.1).elim
    | _ => rfl
  | keyboardMouse act =>
    rw [hact] at hspec
    cases act with
    | vhfCreate owner context => exact (hbusy hspec.1).elim
    | _ => rfl
  | _ => rfl

theorem deleted_of_returned (hd : Disciplined w) {handle : Handle} {child : Child}
    (hchild : w.shared.children[handle]? = some child) (hreturns : child.deleteReturns ≠ 0) :
    child.deleteCalls = 1 ∧ child.deleteReturns = 1 := by
  obtain ⟨live, calls, hat, -, -⟩ := hd.childrenAt child.place
  refine hat.others handle child hchild rfl fun hlive => hreturns ?_
  obtain ⟨c, hc, -, -, hzero⟩ := hat.live_at handle hlive
  rw [hchild] at hc
  rwa [Option.some.inj hc]

theorem dark_step {event : Event Choice Stimulus} (hd : Disciplined w) (h : w.shared.Dark)
    (hrunning : w.shared.running = false) (hstep : driver.step w event = some w') :
    w'.shared.Dark := by
  refine ⟨shut_step h.shut hrunning hstep, fun handle child hchild => ?_⟩
  have hd' := hd.step hstep
  cases event with
  | act i choice =>
    obtain ⟨s⟩ := System.actStep_of_step hstep
    refine deleted_of_returned hd' hchild ?_
    rw [s.shared_after] at hchild
    -- No child is new, and a return is not taken back.
    have hlength := children_length (k := s.thread.kind) s.exec (not_createsChild hd h.shut s)
    have hlt := (List.getElem?_eq_some_iff.mp hchild).1
    rw [hlength] at hlt
    have hbefore := List.getElem?_eq_getElem hlt
    have hkin := exec_kin (k := s.thread.kind) s.exec
    obtain ⟨child', hchild', -, -, hreturns⟩ := hkin.forward handle _ hbefore
    obtain rfl := Option.some.inj (hchild.symm.trans hchild')
    have hone := (h.deleted handle _ hbefore).2
    omega
  | env stimulus =>
    obtain ⟨keepalive, hshared, -⟩ | ⟨operation, -, hshared, -⟩ := environment_cases hstep
    · rw [hshared] at hchild
      exact h.deleted handle child hchild
    · rw [hshared] at hchild
      exact h.deleted handle child hchild

-- The transition's first pass closes every place.
theorem shut_mark (hd : Disciplined w) (s : System.ActStep driver w i choice w')
    (htakes : s.act.takesOver = true) : ∀ p, ¬w'.shared.openAt p := by
  intro p hopen
  rw [s.shared_after] at hopen
  obtain ⟨m, m₁, hspec, hst⟩ := hd.at_head s.at_index s.todo
  have hexec : s.act.exec w.threads w.shared s.thread.kind s.thread.regs choice = some s.outcome :=
    s.exec
  cases hact : s.act with
  | power act =>
    rw [hact] at hexec hspec htakes
    cases p with
    | keyboardMouse =>
      refine stops_closes ?_ hexec hopen
      cases act <;> first | exact trivial | cases htakes
    | controller id =>
      rw [← Option.some.inj hexec] at hopen
      simp only [Device.openAt, Device.stateAt] at hopen
      cases act with
      | stopMark forgetTarget =>
        cases hstate : (w.shared.controllers id).control.state <;>
          simp [PowerAct.exec, Device.effect, Device.mapSlots, stopTimer_stop_eq.1, Slot.stopped,
            hstate, Slot.reset] at hopen
      | downMark =>
        obtain ⟨rfl, -⟩ := hspec
        obtain ⟨hnone, state, hidle, hstands⟩ | ⟨handle, hsome, -⟩ :=
          handlesOf_cases (hst _ rfl (.controller id))
        · have hstate : (w.shared.controllers id).control.state = state := hstands.state
          have hkept : (w.shared.controllers id).poweredDown = none := hnone
          simp only [PowerAct.exec, Device.effect, Device.mapSlots, stopTimer_stop_eq.1, hkept,
            Slot.takenDown, Option.isSome_none, Bool.false_eq_true, if_false, hstate] at hopen
          obtain rfl | rfl := hidle <;> simp at hopen
        · have htaken : (w.shared.controllers id).poweredDown = some handle := hsome
          simp [PowerAct.exec, Device.effect, Device.mapSlots, stopTimer_stop_eq.1, htaken,
            Slot.takenDown] at hopen
      | _ => cases htakes
  | _ =>
    rw [hact] at htakes
    cases htakes

-- While nobody has the gate a place that is not in use has no child left.
theorem dark_of_free (hd : Disciplined w) (hfree : w.shared.gateHeld = false)
    (hshut : ∀ p, ¬w.shared.openAt p) : w.shared.Dark := by
  refine ⟨hshut, fun handle child hchild => ?_⟩
  obtain ⟨holder, hd⟩ := hd
  have hnone : holderMode holder = none := by
    have hgate := hd.shared.gate
    rw [hfree] at hgate
    exact Option.isNone_iff_eq_none.mp (by rw [← Option.not_isSome, ← hgate]; rfl)
  have hplace := hd.shared.places child.place
  rw [hnone] at hplace
  have hsettled : Settled w.shared child.place := hplace
  obtain ⟨state, -, hstands⟩ := hsettled.retired fun hactive => hshut _ (.inr hactive)
  exact hstands.children.others handle child hchild rfl (by simp [Standing.idle])

end World

section Runs

variable {keepalive : Bool} {run : driver.Run (World.initial keepalive)} {m n : Nat}

-- Some thread does the act from the one position to the other.
def DoneBetween (run : driver.Run (World.initial keepalive)) (m n : Nat) (a : Act) : Prop :=
  ∃ l i choice, m ≤ l ∧ l < n ∧ run.Performs l i choice a

theorem DoneBetween.mono {m' : Nat} {a : Act} (h : DoneBetween run m' n a) (hm : m ≤ m') :
    DoneBetween run m n a := by
  obtain ⟨l, i, choice, hl, hrest⟩ := h
  exact ⟨l, i, choice, hm.trans hl, hrest⟩

-- What no act but one takes from the device stays while nobody does that one.
theorem stays_between {P : Device → Prop} {a : Act} (hmn : m ≤ n) (hn : n ≤ run.length)
    (hnot : ¬DoneBetween run m n a)
    (hacts : ∀ {act : Act} {threads d k regs choice} {o : Effect},
      act.exec threads d k regs choice = some o → act ≠ a → P d → P o.shared)
    (htimer : ∀ d keepalive, P d → P { d with keepalive := keepalive })
    (hm : P (run.world m).shared) : P (run.world n).shared := by
  refine run.induct_between (P := fun l => P (run.world l).shared) hmn hn hm ?_
  intro l event hl hln hevent hbefore
  have hstep := run.step_at hevent
  cases event with
  | act i choice =>
    obtain ⟨s⟩ := System.actStep_of_step hstep
    have hother : s.act ≠ a := fun hact =>
      hnot ⟨l, i, choice, hl, hln, hact ▸ run.performs_of_step hevent s⟩
    rw [s.shared_after]
    exact hacts (k := s.thread.kind) s.exec hother hbefore
  | env stimulus =>
    obtain ⟨keepalive, hshared, -⟩ | ⟨operation, -, hshared, -⟩ := environment_cases hstep
    · rw [hshared]
      exact htimer _ keepalive hbefore
    · rw [hshared]
      exact hbefore

-- What a thread has left when power_down_controllers, or stop_owned_controllers, has
-- returned to it.
def Operation.afterwards : Operation → Option (List Act)
  | .d0Exit => some [.reply .success .none]
  | .releaseHardware => some closeTarget
  | .targetCleanup => some []
  | _ => none

def Operation.stopsDevice : Operation → Bool
  | .releaseHardware | .targetCleanup => true
  | _ => false

theorem program_of_afterwards {operation : Operation} {rest : List Act}
    (h : operation.afterwards = some rest) : ∃ intent mark, operation.program =
        .power intent :: .lockLifetime :: .power mark :: .unlockLifetime :: rest ∧
      (intent = .stopIntent ∨ intent = .downIntent) ∧ (Act.power mark).takesOver = true ∧
        (operation.stopsDevice = true → intent = .stopIntent) := by
  cases operation with
  | d0Exit =>
    cases h
    exact ⟨.downIntent, .downMark, rfl, .inr rfl, rfl, fun hstops => by cases hstops⟩
  | releaseHardware =>
    cases h
    exact ⟨.stopIntent, .stopMark false, rfl, .inl rfl, rfl, fun _ => rfl⟩
  | targetCleanup =>
    cases h
    exact ⟨.stopIntent, .stopMark true, rfl, .inl rfl, rfl, fun _ => rfl⟩
  | _ => cases h

-- From the announcement on the device does not run, until it enters D0 or, after a stop,
-- has been prepared and enters D0.
theorem not_running_between {intent : PowerAct} {i : Nat} {choice : Choice}
    (hperforms : run.Performs m i choice (.power intent))
    (hintent : intent = .stopIntent ∨ intent = .downIntent) (hmn : m < n) (hn : n ≤ run.length)
    (houtside : ¬DoneBetween run m n (.power .d0Entry) ∨
      intent = .stopIntent ∧ ¬DoneBetween run m n (.power .prepare)) :
    (run.world n).shared.running = false := by
  obtain ⟨s, hact⟩ := hperforms.step
  have hexec := s.exec
  rw [hact] at hexec
  have houtcome : (PowerAct.exec (run.world m).shared s.thread.regs intent) = s.outcome :=
    Option.some.inj hexec
  obtain hentry | ⟨rfl, hprepare⟩ := houtside
  · have hpowered : (run.world (m + 1)).shared.powered = false := by
      rw [s.shared_after, ← houtcome]
      obtain rfl | rfl := hintent <;> rfl
    have hoff := stays_between (P := fun d => d.powered = false) hmn hn
      (fun hdone => hentry (hdone.mono (Nat.le_succ m))) unpowered_stays (fun _ _ h => h) hpowered
    rw [Device.running, hoff, Bool.and_false]
  · have hstopping : (run.world (m + 1)).shared.stopping = true := by
      rw [s.shared_after, ← houtcome]
      rfl
    have hon := stays_between (P := fun d => d.stopping = true) hmn hn
      (fun hdone => hprepare (hdone.mono (Nat.le_succ m))) stopping_stays (fun _ _ h => h) hstopping
    rw [Device.running, hon]
    rfl

-- A transition has returned in a thread that began it at `start`. Whatever the others did
-- meanwhile and do since, nothing is live until the device is let run again.
theorem nothing_live_outside_d0 (run : driver.Run (World.initial keepalive))
    {operation : Operation} {rest : List Act} {thread start back n : Nat} {t : Task}
    (hafter : operation.afterwards = some rest)
    (hstart : (run.world start).threads[thread]? = some operation.start)
    (hback : (run.world back).threads[thread]? = some t) (hreturned : t.todo <:+ rest)
    (hsb : start ≤ back) (hbn : back ≤ n) (hn : n ≤ run.length)
    (houtside : ¬DoneBetween run start n (.power .d0Entry) ∨
      operation.stopsDevice = true ∧ ¬DoneBetween run start n (.power .prepare)) :
    (run.world n).shared.Dark := by
  obtain ⟨intent, mark, hprogram, hintent, htakes, hstops⟩ := program_of_afterwards hafter
  have hlen : t.todo.length ≤ rest.length := hreturned.length_le
  have hnback : back ≤ run.length := hbn.trans hn
  have hdisciplined (l : Nat) (hl : l ≤ run.length) : Disciplined (run.world l) :=
    Reaches.disciplined (run.reaches l hl)
  -- The three acts of the transition, in their order.
  obtain ⟨l₁, c₁, next₁, v₁, hl₁, hlt₁, hperforms₁, hv₁, htodo₁⟩ :=
    run.exists_performs hsb hnback hstart (show _ = [] ++ _ from hprogram) hback
      (by simp only [List.length_cons]; omega)
  have hfront : v₁.todo =
      (next₁ ++ [.lockLifetime]) ++ .power mark :: .unlockLifetime :: rest := by
    rw [htodo₁, List.append_assoc]
    rfl
  obtain ⟨l₂, c₂, next₂, v₂, hl₂, hlt₂, hperforms₂, hv₂, htodo₂⟩ :=
    run.exists_performs hlt₁ hnback hv₁ hfront hback (by simp only [List.length_cons]; omega)
  obtain ⟨l₃, c₃, next₃, v₃, hl₃, hlt₃, hperforms₃, -, -⟩ :=
    run.exists_performs hlt₂ hnback hv₂ htodo₂ hback hlen
  have hrunning (l : Nat) (hl : l₁ < l) (hln : l ≤ n) : (run.world l).shared.running = false := by
    refine not_running_between hperforms₁ hintent hl (hln.trans hn) ?_
    have hbetween {a : Act} (hdone : DoneBetween run l₁ l a) : DoneBetween run start n a := by
      obtain ⟨j, i, choice, hj, hjl, hrest⟩ := hdone
      exact ⟨j, i, choice, hl₁.trans hj, hjl.trans_le hln, hrest⟩
    obtain hentry | ⟨hdevice, hprepare⟩ := houtside
    · exact .inl fun hdone => hentry (hbetween hdone)
    · exact .inr ⟨hstops hdevice, fun hdone => hprepare (hbetween hdone)⟩
  obtain ⟨s₂, hact₂⟩ := hperforms₂.step
  have hmarked := shut_mark (hdisciplined l₂ (by omega)) s₂ (by rw [hact₂]; exact htakes)
  have hshut : ∀ p, ¬(run.world (l₃ + 1)).shared.openAt p := by
    refine run.induct_between (P := fun l => ∀ p, ¬(run.world l).shared.openAt p)
      (Nat.le_succ_of_le hl₃) (by omega) hmarked fun l event hl hln hevent hbefore => ?_
    exact shut_step hbefore (hrunning l (by omega) (by omega)) (run.step_at hevent)
  obtain ⟨s₃, hact₃⟩ := hperforms₃.step
  have hfree : (run.world (l₃ + 1)).shared.gateHeld = false := by
    have hexec := s₃.exec
    rw [hact₃] at hexec
    rw [s₃.shared_after, ← Option.some.inj hexec]
    rfl
  have hdark := dark_of_free (hdisciplined (l₃ + 1) (by omega)) hfree hshut
  refine run.induct_between (P := fun l => (run.world l).shared.Dark) (by omega) hn hdark ?_
  intro l event hl hln hevent hbefore
  exact dark_step (hdisciplined l (by omega)) hbefore (hrunning l (by omega) (by omega))
    (run.step_at hevent)

def Act.resumes : Act → Bool
  | .power .d0Entry | .power .prepare => true
  | _ => false

-- The device leaves D0 while a creator is about to start its child; the creator finds out
-- when it adopts it, and deletes it again.
def overtakenCreation : List (Event Choice Stimulus) :=
  .env (.start .d0Entry) :: willingly 0 3 ++
    .env (.start (.request (some 1) (.create ⟨0, .xboxOne, 0⟩))) :: willingly 1 11 ++
    .env (.start .d0Exit) :: willingly 2 1 ++ willingly 1 6 ++ willingly 2 12

theorem nothing_live_outside_d0_overtaken : ∃ run : driver.Run (World.initial true),
    run.last.shared.children.length = 1 ∧ run.last.shared.Dark := by
  let run : driver.Run (World.initial true) := ⟨overtakenCreation, by decide +kernel⟩
  have hquiet : ∀ l < 36, 17 ≤ l → ((run.actAt l).all fun x => !x.2.2.resumes) = true := by
    decide +kernel
  have houtside : ¬DoneBetween run 17 36 (.power .d0Entry) := by
    rintro ⟨l, i, choice, hl, hln, hperforms⟩
    have hnone := hquiet l hln hl
    rw [show run.actAt l = some (i, choice, .power .d0Entry) from hperforms] at hnone
    cases hnone
  have hstart : (run.world 17).threads[2]? = some Operation.d0Exit.start := by
    have hevent : run.events[16]? = some (.env (.start .d0Exit)) := rfl
    obtain ⟨out, hout, hworld⟩ := System.environment_of_step (run.step_at hevent)
    obtain rfl : ((run.world 16).shared, [Operation.d0Exit.start]) = out := Option.some.inj hout
    have hlength : (run.world 16).threads.length = 2 := by decide +kernel
    rw [hworld, List.getElem?_append_right (Nat.le_of_eq hlength), hlength]
    rfl
  have hended : ((run.world 36).threads[2]?.map fun t => t.todo.isEmpty) = some true := by
    decide +kernel
  obtain ⟨t, hback, hempty⟩ := Option.map_eq_some_iff.mp hended
  have hreturned : t.todo <:+ [.reply .success .none] := by
    rw [List.isEmpty_iff.mp hempty]
    exact List.nil_suffix
  exact ⟨run, by decide +kernel, nothing_live_outside_d0 run rfl hstart hback hreturned
    (by decide) (Nat.le_refl 36) (by decide) (.inl houtside)⟩

end Runs

end LibVirtualGamepad
