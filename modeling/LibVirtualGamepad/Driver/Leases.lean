import LibVirtualGamepad.Driver.ChildAbsence

-- What a create that fails leaves of its slot: an empty slot is empty again, a lost one
-- is lost to its owner.
namespace LibVirtualGamepad

open Interleaving

-- The lifecycle state of a slot and the file it belongs to.
structure Lease where
  state : SlotState
  owner : Option File
  deriving DecidableEq

def Device.leaseOf (d : Device) (id : ControllerId) : Lease where
  state := (d.controllers id).control.state
  owner := (d.controllers id).control.owner

-- The section of a create that takes the slot, where it is not refused.
def Act.takes (d : Device) (id : ControllerId) : Act → Bool
  | .create i owner _ (.begin generation childPresent) =>
    i == id && (d.createRefusal i owner).isNone &&
      (d.controllers i).control.generation == generation && !childPresent
  | _ => false

-- Only a stop of the device may take a lease away.
def Device.KeepsLease (before after : Device) (id : ControllerId) : Prop :=
  after.stopping = true ∨ after.leaseOf id = before.leaseOf id

section Acts

variable {d d' : Device} {id : ControllerId} {threads : List Task} {k : Operation}
  {regs : Registers} {choice : Choice} {a : Act} {o : Effect}

theorem leaseOf_same (h : SameControl d d') (id : ControllerId) : d'.leaseOf id = d.leaseOf id := by
  simp only [Device.leaseOf, (h.lifecycle id).state, (h.lifecycle id).owner]

theorem leaseOf_controllers (h : d'.controllers = d.controllers) (id : ControllerId) :
    d'.leaseOf id = d.leaseOf id := by
  simp only [Device.leaseOf, h]

-- Without the gate nobody changes a lease.
theorem lease_ungated {m : Option Mode} (hspec : a.spec k none m)
    (h : a.exec threads d k regs choice = some o) (id : ControllerId) :
    o.shared.leaseOf id = d.leaseOf id := by
  cases hmanages : a.manages with
  | false => exact leaseOf_same (Act.control_of_not_manages hmanages h) id
  | true =>
    cases a with
    | create i owner profile act =>
      cases h
      cases act with
      | check =>
        simp only [CreateAct.exec]
        split <;> rfl
      | enumerate generation => rfl
      | release =>
        obtain ⟨hheld | hheld, -⟩ := hspec
        · cases hheld
        · cases hheld
      | _ =>
        have hheld := hspec.1
        cases hheld
    | destroy i owner act =>
      cases h
      cases act with
      | check =>
        simp only [DestroyAct.exec]
        repeat' split
        all_goals rfl
      | _ =>
        have hheld := hspec.1
        cases hheld
    | power act =>
      cases h
      cases act with
      | stopMark _ | downMark =>
        have hheld := hspec.1
        cases hheld
      | stopCollect _ =>
        obtain ⟨_, _, hheld, -⟩ := hspec
        cases hheld
      | stopRelease _ =>
        obtain ⟨_, _, hheld, -⟩ := hspec
        cases hheld
      | downDetach _ | downFinish _ =>
        obtain ⟨_, hheld, -⟩ := hspec
        cases hheld
      | _ => rfl
    | keyboardMouse act => exact leaseOf_controllers (keyboardMouse_only h).1.controllers id
    | _ => cases hmanages

end Acts

-- An empty slot is nobody's.
section Unowned

variable {d d' : Device} {id : ControllerId} {slot : Slot} {threads : List Task} {k : Operation}
  {regs : Registers} {choice : Choice} {a : Act} {o : Effect}

def Slot.Unowned (slot : Slot) : Prop := slot.control.state = .empty → slot.control.owner = none

def Device.Unowned (d : Device) : Prop := ∀ id, (d.controllers id).Unowned

theorem Device.Unowned.setSlot (h : d.Unowned) (hslot : slot.Unowned) :
    (d.setSlot id slot).Unowned := by
  intro i
  by_cases hi : i = id
  · rw [hi, setSlot_controllers_self]
    exact hslot
  · rw [setSlot_controllers_of_ne hi]
    exact h i

theorem unowned_reset (slot : Slot) : slot.reset.Unowned := fun _ => rfl

theorem unowned_taken (state : SlotState) (hstate : slot.control.state = state)
    (hne : state ≠ .empty) : slot.Unowned :=
  fun hempty => absurd (hstate.symm.trans hempty) hne

theorem unowned_stopped (h : slot.Unowned) : slot.stopped.Unowned := by
  unfold Slot.stopped
  cases hstate : slot.control.state with
  | active | starting => exact unowned_taken .stopping rfl (by decide)
  | lost => exact unowned_reset _
  | empty | stopping => exact h

theorem unowned_detached (h : slot.Unowned) : slot.detached.Unowned := by
  unfold Slot.detached
  split
  · exact h
  · exact h

theorem unowned_takenDown (taken : Bool) (h : slot.Unowned) : (slot.takenDown taken).Unowned := by
  cases taken with
  | true => exact unowned_taken .stopping rfl (by decide)
  | false => exact h

theorem unowned_unpublished (taken : Bool) (h : slot.Unowned) : (slot.unpublished taken).Unowned := by
  cases taken with
  | true => exact h
  | false => exact h

theorem unowned_lostAfterDelete (taken : Bool) (h : slot.Unowned) :
    (slot.lostAfterDelete taken).Unowned := by
  unfold Slot.lostAfterDelete
  split
  · exact unowned_taken .lost rfl (by decide)
  · exact h

theorem unowned_create {owner : File} {profile : Profile} (act : CreateAct) (h : d.Unowned) :
    (act.exec d regs choice id owner profile).shared.Unowned := by
  cases act with
  | «begin» generation childPresent =>
    simp only [CreateAct.exec]
    repeat' split
    · exact h
    · exact h
    · exact h.setSlot (unowned_taken .starting rfl (by decide))
  | publish handle => exact h.setSlot (h id)
  | adopt handle =>
    simp only [CreateAct.exec]
    split
    · exact h.setSlot (unowned_taken .active rfl (by decide))
    · rw [clearFeedbackPending_setControl]
      exact h.setSlot (unowned_taken .stopping rfl (by decide))
  | release =>
    simp only [CreateAct.exec, Device.effect, Device.releaseStartingSlot]
    split
    · exact h.setSlot (unowned_reset _)
    · exact h
  | _ =>
    simp only [CreateAct.exec]
    repeat' split
    all_goals exact h

theorem unowned_destroy {owner : File} (act : DestroyAct) (h : d.Unowned) :
    (act.exec d regs id owner).shared.Unowned := by
  cases act with
  | check =>
    simp only [DestroyAct.exec]
    repeat' split
    all_goals exact h
  | detach =>
    simp only [DestroyAct.exec]
    split
    · exact h
    split
    · exact h.setSlot (unowned_taken .stopping rfl (by decide))
    split
    · exact h.setSlot (unowned_reset _)
    · rw [discardFeedback_setControl]
      exact h.setSlot (unowned_taken .stopping rfl (by decide))
  | finish =>
    simp only [DestroyAct.exec]
    split
    · exact h.setSlot (unowned_reset _)
    · exact h

theorem unowned_controllers (h : d.Unowned) (hsame : d'.controllers = d.controllers) :
    d'.Unowned := by
  intro id
  rw [hsame]
  exact h id

theorem unowned_power (act : PowerAct) (h : d.Unowned) : (act.exec d regs).shared.Unowned := by
  have hstop : d.stopTimer.stopKeyboardMouseAdmission.Unowned :=
    unowned_controllers h only_stopAdmission.controllers
  cases act with
  | stopMark forgetTarget => exact fun id => unowned_stopped (hstop id)
  | stopCollect forgetTarget => exact fun id => unowned_detached (h id)
  | stopRelease id => exact h.setSlot (unowned_reset _)
  | downMark => exact fun id => unowned_takenDown _ (hstop id)
  | downDetach handles => exact fun id => unowned_unpublished _ (h id)
  | downFinish handles => exact fun id => unowned_lostAfterDelete _ (h id)
  | _ => exact h

theorem unowned_act (h : d.Unowned) (hexec : a.exec threads d k regs choice = some o) :
    o.shared.Unowned := by
  cases hmanages : a.manages with
  | false =>
    have hsame := Act.control_of_not_manages hmanages hexec
    intro id hempty
    rw [(hsame.lifecycle id).owner]
    rw [(hsame.lifecycle id).state] at hempty
    exact h id hempty
  | true =>
    cases a with
    | create i owner profile act =>
      cases hexec
      exact unowned_create act h
    | destroy i owner act =>
      cases hexec
      exact unowned_destroy act h
    | power act =>
      cases hexec
      exact unowned_power act h
    | keyboardMouse act => exact unowned_controllers h (keyboardMouse_only hexec).1.controllers
    | _ => cases hmanages

theorem Reaches.unowned {keepalive : Bool} {w : World}
    (h : driver.Reaches (World.initial keepalive) w) : w.shared.Unowned := by
  refine System.Reaches.invariant h (P := fun w => w.shared.Unowned) ?_ fun _ _ => rfl
  intro w event w' hw hstep
  cases event with
  | act i choice =>
    obtain ⟨s⟩ := System.actStep_of_step hstep
    rw [s.shared_after]
    exact unowned_act (k := s.thread.kind) hw s.exec
  | env stimulus =>
    obtain ⟨_, hshared, -⟩ | ⟨_, -, hshared, -⟩ := environment_cases hstep
    · rw [hshared]
      exact hw
    · rw [hshared]
      exact hw

end Unowned

-- What a call to create still does before it has its slot.
inductive Asking (id : ControllerId) (owner : File) (profile : Profile) : List Act → Prop where
  | reply (status : NtStatus) (output : Output) : Asking id owner profile [.reply status output]
  | check : Asking id owner profile [.create id owner profile .check]
  | enumerate (generation : UInt64) :
    Asking id owner profile [.create id owner profile (.enumerate generation)]
  | locking (generation : UInt64) (childPresent : Bool) :
    Asking id owner profile
      [.lockLifetime, .create id owner profile (.begin generation childPresent), .unlockLifetime]
  | beginning (generation : UInt64) (childPresent : Bool) :
    Asking id owner profile
      [.create id owner profile (.begin generation childPresent), .unlockLifetime]

def CreateAct.holdsSlot : CreateAct → Bool
  | .check | .enumerate _ | .begin _ _ => false
  | _ => true

-- What it still does while it has it.
inductive Taking (id : ControllerId) (owner : File) (profile : Profile) : List Act → Prop where
  | target (act : TargetAct) : Taking id owner profile
      [.target act, .create id owner profile .targetOpened, .unlockLifetime]
  | create (act : CreateAct) (holds : act.holdsSlot = true) :
    Taking id owner profile [.create id owner profile act, .unlockLifetime]
  | deleting (handle : Handle) : Taking id owner profile
      [.deleteBegin handle, .deleteEnd handle, .create id owner profile .release, .unlockLifetime]
  | deleted (handle : Handle) : Taking id owner profile
      [.deleteEnd handle, .create id owner profile .release, .unlockLifetime]

def Device.HeldBy (d : Device) (id : ControllerId) (owner : File) : Prop :=
  d.leaseOf id = ⟨.starting, some owner⟩ ∨ d.leaseOf id = ⟨.stopping, some owner⟩

section Calls

variable {d d' : Device} {id : ControllerId} {owner : File} {profile : Profile}
  {threads : List Task} {k : Operation} {regs : Registers} {choice : Choice} {a : Act} {o : Effect}
  {rest : List Act}

theorem taken_state (h : a.takes d id = true) :
    (d.leaseOf id).state = .empty ∨ (d.leaseOf id).state = .lost := by
  cases a with
  | create i owner profile act =>
    cases act with
    | «begin» generation childPresent =>
      simp only [Act.takes, Bool.and_eq_true, beq_iff_eq, Option.isNone_iff_eq_none] at h
      obtain ⟨⟨⟨rfl, hrefusal⟩, -⟩, -⟩ := h
      have havailable := (createRefusal_none hrefusal).2.2
      simp only [Device.available, Bool.or_eq_true, Bool.and_eq_true, beq_iff_eq] at havailable
      exact havailable.imp_right And.left
    | _ => cases h
  | _ => cases h

-- How an act leaves a call that does not have its slot yet.
inductive Asked (id : ControllerId) (owner : File) (profile : Profile) (d : Device) (a : Act)
    (d' : Device) (todo : List Act) : Prop where
  | asks (same : d'.leaseOf id = d.leaseOf id) (todo : Asking id owner profile todo)
  | refused (same : d'.leaseOf id = d.leaseOf id) (takes : a.takes d id = false)
      (todo : todo = [] ∨ todo = [.unlockLifetime])
  | taken (takes : a.takes d id = true) (held : d'.HeldBy id owner)
      (todo : Taking id owner profile todo)

theorem asking_exec (htodo : Asking id owner profile (a :: rest))
    (h : a.exec threads d k regs choice = some o) :
    Asked id owner profile d a o.shared (o.next ++ rest) := by
  cases htodo with
  | reply status output =>
    cases h
    exact .refused rfl rfl (.inl rfl)
  | check =>
    cases h
    simp only [CreateAct.exec]
    split
    · exact .refused rfl rfl (.inl rfl)
    · exact .asks rfl (.enumerate _)
  | enumerate generation =>
    cases h
    exact .asks rfl (.locking generation choice.childPresent)
  | locking generation childPresent =>
    simp only [Act.exec] at h
    split at h <;> cases h
    exact .asks rfl (.beginning generation childPresent)
  | beginning generation childPresent =>
    cases h
    simp only [CreateAct.exec]
    split
    · rename_i hrefused
      exact .refused rfl (by simp [Act.takes, hrefused]) (.inr rfl)
    · rename_i hrefused
      split
      · rename_i hstale
        refine .refused rfl (Bool.eq_false_iff.mpr fun htakes => ?_) (.inr rfl)
        simp only [Act.takes, Bool.and_eq_true, beq_iff_eq, Bool.not_eq_true'] at htakes
        simp [htakes.1.2, htakes.2] at hstale
      · rename_i hfresh
        simp only [Bool.not_eq_true, Bool.or_eq_false_iff, bne_eq_false_iff_eq] at hfresh
        refine .taken ?_ (.inl ?_) (.target .check)
        · simp [Act.takes, hrefused, hfresh.1, hfresh.2]
        · simp [Device.leaseOf, Device.effect, Device.beginSlot]

-- How an act leaves a call that has it.
inductive Took (id : ControllerId) (owner : File) (profile : Profile) (d : Device)
    (regs : Registers) (todo : List Act) : Prop where
  | holds (held : d.HeldBy id owner) (todo : Taking id owner profile todo)
  | released (lease : d.leaseOf id = ⟨.empty, none⟩) (todo : todo = [.unlockLifetime])
  | adopted (ok : regs.status.ok = true) (todo : todo = [.unlockLifetime])

theorem held_of_same (h : d.HeldBy id owner) (hsame : d'.leaseOf id = d.leaseOf id) :
    d'.HeldBy id owner := by
  unfold Device.HeldBy
  rw [hsame]
  exact h

theorem taking_create {act : CreateAct} (hact : act.holdsSlot = true) (hheld : d.HeldBy id owner) :
    Took id owner profile (act.exec d regs choice id owner profile).shared
      (act.exec d regs choice id owner profile).regs
      ((act.exec d regs choice id owner profile).next ++ [.unlockLifetime]) := by
  cases act with
  | check | enumerate generation | «begin» generation childPresent => cases hact
  | targetOpened | readFile =>
    simp only [CreateAct.exec]
    split
    · exact .holds hheld (.create _ rfl)
    · exact .holds hheld (.create .release rfl)
  | vhfCreate =>
    simp only [CreateAct.exec]
    split
    · exact .holds hheld (.create _ rfl)
    · exact .holds hheld (.create .release rfl)
  | publish handle =>
    refine .holds (held_of_same hheld ?_) (.create (.start handle) rfl)
    simp [Device.leaseOf, CreateAct.exec, Device.effect, Device.setControl]
  | start handle => exact .holds hheld (.create (.adopt handle) rfl)
  | adopt handle =>
    simp only [CreateAct.exec]
    split
    · exact .adopted rfl rfl
    · have howner : (d.controllers id).control.owner = some owner := by
        obtain hlease | hlease := hheld
        · exact congrArg Lease.owner hlease
        · exact congrArg Lease.owner hlease
      refine .holds (.inr ?_) (.deleting handle)
      rw [clearFeedbackPending_setControl]
      simp [Device.leaseOf, Device.effect, howner]
  | release =>
    refine .released ?_ rfl
    have hfree : d.releaseStartingSlot id owner = d.setSlot id (d.controllers id).reset := by
      obtain hlease | hlease := hheld
      · have hstate : d.stateAt (.controller id) = .starting := congrArg Lease.state hlease
        exact releaseStartingSlot_eq (congrArg Lease.owner hlease) (.inl hstate)
      · have hstate : d.stateAt (.controller id) = .stopping := congrArg Lease.state hlease
        exact releaseStartingSlot_eq (congrArg Lease.owner hlease) (.inr hstate)
    simp [Device.leaseOf, CreateAct.exec, Device.effect, hfree, Slot.reset]

theorem taking_exec (htodo : Taking id owner profile (a :: rest)) (hheld : d.HeldBy id owner)
    (h : a.exec threads d k regs choice = some o) :
    Took id owner profile o.shared o.regs (o.next ++ rest) := by
  cases htodo with
  | target act =>
    cases h
    have hheld' : (act.exec d regs choice).shared.HeldBy id owner :=
      held_of_same hheld (leaseOf_same (target_control act) id)
    refine .holds hheld' ?_
    cases act with
    | check =>
      simp only [TargetAct.exec]
      repeat' split
      · exact .create .targetOpened rfl
      · exact .create .targetOpened rfl
      · exact .target .openByFile
    | openByFile =>
      simp only [TargetAct.exec]
      repeat' split
      · exact .create .targetOpened rfl
      · exact .create .targetOpened rfl
      · exact .target (.store _)
    | store file => exact .create .targetOpened rfl
  | create act hact =>
    cases h
    exact taking_create hact hheld
  | deleting handle =>
    have hsame := leaseOf_same (Act.control_of_not_manages rfl h) id
    cases h
    exact .holds (held_of_same hheld hsame) (.deleted handle)
  | deleted handle =>
    have hsame := leaseOf_same (Act.control_of_not_manages rfl h) id
    simp only [Act.exec] at h
    split at h <;> cases h
    exact .holds (held_of_same hheld hsame) (.create .release rfl)

-- A call that has its slot holds the gate.
theorem Taking.holdsGate {w : World} {holder : Option (Nat × Mode)} {j : Nat} {t : Task}
    (h : Taking id owner profile t.todo) (hd : LockedBy Act.spec Ok w holder)
    (ht : w.threads[j]? = some t) : (modeOf holder j).isSome := by
  have hchain := hd.chains j t ht
  have hholds {act : CreateAct} {m m' : Option Mode} (hact : act.holdsSlot = true)
      (hspec : (Act.create id owner profile act).spec t.kind m m') : m.isSome := by
    cases act with
    | check | enumerate generation | «begin» generation childPresent => cases hact
    | release =>
      obtain ⟨hheld | hheld, -⟩ := hspec
      · rw [hheld]
        rfl
      · rw [hheld]
        rfl
    | _ =>
      rw [show m = _ from hspec.1]
      rfl
  generalize t.todo = todo at h hchain
  cases h with
  | target act =>
    obtain ⟨m₁, htarget, m₂, hspec, -⟩ := hchain
    have hsame : m₁ = modeOf holder j := htarget
    rw [hsame] at hspec
    exact hholds rfl hspec
  | create act hact =>
    obtain ⟨m₁, hspec, -⟩ := hchain
    exact hholds hact hspec
  | deleting handle | deleted handle =>
    obtain ⟨m₁, hspec, -⟩ := hchain
    obtain ⟨M, _, _, hheld, -⟩ := hspec
    rw [hheld]
    rfl

theorem asking_program {request : CreateControllerRequest}
    (hid : ControllerId.ofRequest request.controllerId = some id) :
    Asking id owner request.requestedProfile ((Request.create request).program owner) := by
  simp only [Request.program, withSlot, hid]
  split
  · exact .reply _ _
  · split
    · exact .reply _ _
    · exact .check

end Calls

section Runs

variable {keepalive : Bool} (run : driver.Run (World.initial keepalive))

-- What the thread does at the position leaves the slot's lease as it is.
def LeavesLease (id : ControllerId) (j n : Nat) : Prop := ∀ choice a, run.Performs n j choice a →
  (run.world (n + 1)).shared.leaseOf id = (run.world n).shared.leaseOf id

-- The thread is at work on the slot from `m` to `l`: elsewhere it leaves the lease, and
-- in between nobody else changes it.
structure WorksOn (id : ControllerId) (j m l : Nat) : Prop where
  order : m ≤ l
  outside : ∀ n, n < m ∨ l < n → LeavesLease run id j n
  inside : ∀ n, m ≤ n → n ≤ l → ∀ i, i ≠ j → LeavesLease run id i n

-- What the work leaves: a slot that was taken is empty.
def Left (id : ControllerId) (j m l : Nat) : Prop := ∃ choice a, run.Performs m j choice a ∧
  (a.takes (run.world m).shared id = true ∧
      (run.world (l + 1)).shared.leaseOf id = ⟨.empty, none⟩ ∨
    a.takes (run.world m).shared id = false ∧
      (run.world (l + 1)).shared.leaseOf id = (run.world m).shared.leaseOf id)

-- A call to create on its way.
inductive Creating (id : ControllerId) (owner : File) (profile : Profile) (j n : Nat) (t : Task) :
    Prop where
  | asking (outside : ∀ k, k < n → LeavesLease run id j k) (todo : Asking id owner profile t.todo)
  | taking (m : Nat) (before : m < n)
      (took : ∃ choice a, run.Performs m j choice a ∧ a.takes (run.world m).shared id = true)
      (outside : ∀ k, k < m → LeavesLease run id j k)
      (inside : ∀ k, m ≤ k → k < n → ∀ i, i ≠ j → LeavesLease run id i k)
      (held : (run.world n).shared.HeldBy id owner) (todo : Taking id owner profile t.todo)
  | ended (m l : Nat) (order : m ≤ l) (before : l < n) (left : Left run id j m l)
      (outside : ∀ k, k < n → k < m ∨ l < k → LeavesLease run id j k)
      (inside : ∀ k, m ≤ k → k ≤ l → ∀ i, i ≠ j → LeavesLease run id i k)
      (todo : t.todo = [] ∨ t.todo = [.unlockLifetime])
  | adopted (ok : t.regs.status.ok = true) (todo : t.todo = [] ∨ t.todo = [.unlockLifetime])

variable {run} {id : ControllerId} {owner : File} {profile : Profile} {j n : Nat} {t : Task}
  {choice : Choice}

theorem leaves_of_step (s : System.ActStep driver (run.world n) j choice (run.world (n + 1)))
    (hsame : s.outcome.shared.leaseOf id = (run.world n).shared.leaseOf id) (i : Nat) :
    LeavesLease run id i n := by
  intro _ _ _
  rw [s.shared_after]
  exact hsame

-- Where one thread acts no other does.
theorem leaves_of_other (hevent : run.events[n]? = some (.act j choice)) {i : Nat} (hi : i ≠ j) :
    LeavesLease run id i n := by
  intro choice' a hperforms
  have hact := hperforms.event.symm.trans hevent
  simp only [Option.some.injEq, Event.act.injEq] at hact
  exact absurd hact.1 hi

theorem leaves_upto {m : Nat} (h : ∀ k, k < m → LeavesLease run id j k)
    (hm : LeavesLease run id j m) : ∀ k, k < m + 1 → LeavesLease run id j k := by
  intro k hk
  obtain hlt | rfl := Nat.lt_succ_iff_lt_or_eq.mp hk
  · exact h k hlt
  · exact hm

-- One act of the thread itself.
theorem Creating.act (hevent : run.events[n]? = some (.act j choice))
    (s : System.ActStep driver (run.world n) j choice (run.world (n + 1)))
    (h : Creating run id owner profile j n s.thread) :
    Creating run id owner profile j (n + 1) (s.outcome.thread s.thread s.rest) := by
  have hperforms := System.Run.performs_of_step hevent s
  have hexec : s.act.exec (run.world n).threads (run.world n).shared s.thread.kind s.thread.regs
      choice = some s.outcome := s.exec
  -- All that is left is to leave the gate.
  have hunlock (htodo : s.thread.todo = [] ∨ s.thread.todo = [.unlockLifetime]) :
      s.outcome.shared.leaseOf id = (run.world n).shared.leaseOf id ∧
        s.outcome.regs = s.thread.regs ∧ s.outcome.next ++ s.rest = [] := by
    rw [s.todo] at htodo
    obtain htodo | htodo := htodo
    · cases htodo
    · obtain ⟨hact, hrest⟩ := List.cons_eq_cons.mp htodo
      rw [hact] at hexec
      have houtcome := Option.some.inj hexec
      rw [← houtcome, hrest]
      exact ⟨rfl, rfl, rfl⟩
  cases h with
  | asking outside todo =>
    rw [s.todo] at todo
    cases asking_exec todo hexec with
    | asks same todo => exact .asking (leaves_upto outside (leaves_of_step s same j)) todo
    | refused same takes todo =>
      refine .ended n n (Nat.le_refl n) (Nat.lt_succ_self n)
        ⟨choice, s.act, hperforms, .inr ⟨takes, ?_⟩⟩ ?_ ?_ todo
      · rw [s.shared_after]
        exact same
      · intro k _ hk
        exact outside k (by omega)
      · intro k hk hkn i hi
        obtain rfl : k = n := by omega
        exact leaves_of_other hevent hi
    | taken takes held todo =>
      refine .taking n (Nat.lt_succ_self n) ⟨choice, s.act, hperforms, takes⟩ outside ?_ ?_ todo
      · intro k hk hkn i hi
        obtain rfl : k = n := by omega
        exact leaves_of_other hevent hi
      · rw [s.shared_after]
        exact held
  | taking m before took outside inside held todo =>
    rw [s.todo] at todo
    have hinside : ∀ k, m ≤ k → k ≤ n → ∀ i, i ≠ j → LeavesLease run id i k := by
      intro k hk hkn i hi
      obtain hlt | rfl := Nat.lt_or_eq_of_le hkn
      · exact inside k hk hlt i hi
      · exact leaves_of_other hevent hi
    cases taking_exec todo held hexec with
    | holds held todo =>
      refine .taking m (Nat.lt_succ_of_lt before) took outside ?_ ?_ todo
      · intro k hk hkn
        exact hinside k hk (Nat.le_of_lt_succ hkn)
      · rw [s.shared_after]
        exact held
    | released lease todo =>
      obtain ⟨choice', a, hbegins, htakes⟩ := took
      refine .ended m n (Nat.le_of_lt before) (Nat.lt_succ_self n)
        ⟨choice', a, hbegins, .inl ⟨htakes, ?_⟩⟩ ?_ hinside (.inr todo)
      · rw [s.shared_after]
        exact lease
      · intro k hk hkm
        exact outside k (by omega)
    | adopted ok todo => exact .adopted ok (.inr todo)
  | ended m l order before left outside inside todo =>
    obtain ⟨hsame, -, hdone⟩ := hunlock todo
    refine .ended m l order (Nat.lt_succ_of_lt before) left ?_ inside (.inl hdone)
    intro k hk hkm
    obtain hlt | rfl := Nat.lt_succ_iff_lt_or_eq.mp hk
    · exact outside k hlt hkm
    · exact leaves_of_step s hsame j
  | adopted ok todo =>
    obtain ⟨-, hregs, hdone⟩ := hunlock todo
    refine .adopted ?_ (.inl hdone)
    show s.outcome.regs.status.ok = true
    rw [hregs]
    exact ok

-- Something else happens: nobody takes a slot away from a call that has it.
theorem Creating.later (h : Creating run id owner profile j n t)
    (hown : LeavesLease run id j n)
    (hothers : Taking id owner profile t.todo → (∀ i, i ≠ j → LeavesLease run id i n) ∧
      (run.world (n + 1)).shared.leaseOf id = (run.world n).shared.leaseOf id) :
    Creating run id owner profile j (n + 1) t := by
  cases h with
  | asking outside todo => exact .asking (leaves_upto outside hown) todo
  | taking m before took outside inside held todo =>
    obtain ⟨hothers, hsame⟩ := hothers todo
    refine .taking m (Nat.lt_succ_of_lt before) took outside ?_ (held_of_same held hsame) todo
    intro k hk hkn i hi
    obtain hlt | rfl := Nat.lt_succ_iff_lt_or_eq.mp hkn
    · exact inside k hk hlt i hi
    · exact hothers i hi
  | ended m l order before left outside inside todo =>
    refine .ended m l order (Nat.lt_succ_of_lt before) left ?_ inside todo
    intro k hk hkm
    obtain hlt | rfl := Nat.lt_succ_iff_lt_or_eq.mp hk
    · exact outside k hlt hkm
    · exact hown
  | adopted ok todo => exact .adopted ok todo

-- Another thread's act, while the call holds the gate.
theorem taking_alone {i : Nat} (hn : n ≤ run.length)
    (s : System.ActStep driver (run.world n) i choice (run.world (n + 1)))
    (ht : (run.world n).threads[j]? = some t) (hi : j ≠ i)
    (htodo : Taking id owner profile t.todo) :
    s.outcome.shared.leaseOf id = (run.world n).shared.leaseOf id := by
  obtain ⟨holder, hd⟩ := Reaches.disciplined (run.reaches n hn)
  have hchain := hd.chains i s.thread s.at_index
  rw [s.todo] at hchain
  obtain ⟨m₁, hspec, -⟩ := hchain
  have hungated : modeOf holder i = none := by
    refine Option.not_isSome_iff_eq_none.mp fun hheld => ?_
    exact hi (same_holder (htodo.holdsGate hd ht) hheld)
  rw [hungated] at hspec
  exact lease_ungated hspec s.exec id

theorem no_act_of_env {stimulus : Stimulus} (hevent : run.events[n]? = some (.env stimulus))
    (i : Nat) : LeavesLease run id i n := by
  intro choice a hperforms
  have hact := hperforms.event.symm.trans hevent
  cases hact

-- Every call that names the slot, at every position of the run.
theorem creating {request : CreateControllerRequest}
    (hid : ControllerId.ofRequest request.controllerId = some id) :
    ∀ n, n ≤ run.length → ∀ t, (run.world n).threads[j]? = some t →
      t.kind = .request (some owner) (.create request) →
        Creating run id owner request.requestedProfile j n t := by
  refine call_induct (by simp) ?_ ?_ ?_
  · intro n hn hnew
    refine .asking (fun k hk choice a hperforms => ?_) (asking_program hid)
    exact absurd hperforms (System.Run.not_performs_before (Nat.le_of_lt hn) hnew (Nat.le_of_lt_succ hk))
  · intro n choice hevent s _ h
    exact h.act hevent s
  · intro n event t hevent hevents ht h
    have hstep := run.step_at hevent
    cases event with
    | act i choice =>
      have hi : j ≠ i := fun hi => hevents choice (by rw [hi])
      obtain ⟨s⟩ := System.actStep_of_step hstep
      refine h.later (leaves_of_other hevent hi) fun htodo => ?_
      have hsame := taking_alone (Nat.le_of_lt (run.lt_length hevent)) s ht hi htodo
      refine ⟨fun i _ => leaves_of_step s hsame i, ?_⟩
      rw [s.shared_after]
      exact hsame
    | env stimulus =>
      have hquiet : ∀ i, LeavesLease run id i n := no_act_of_env hevent
      refine h.later (hquiet j) fun _ => ⟨fun i _ => hquiet i, ?_⟩
      obtain ⟨_, hshared, -⟩ | ⟨_, -, hshared, -⟩ := environment_cases hstep
      · rw [hshared]
        rfl
      · rw [hshared]

-- A create that fails leaves the lease as it was, unless the slot that it took was lost.
theorem failed_create_lease (run : driver.Run (World.initial keepalive)) (j : Nat) (t : Task)
    (owner : File) (request : CreateControllerRequest) (id : ControllerId)
    (ht : run.last.threads[j]? = some t) (hkind : t.kind = .request (some owner) (.create request))
    (hid : ControllerId.ofRequest request.controllerId = some id) (hdone : t.todo = [])
    (hfailed : t.regs.status.ok = false) :
    ∃ m l choice a, WorksOn run id j m l ∧ run.Performs m j choice a ∧
      ((run.world m).shared.KeepsLease (run.world (l + 1)).shared id ↔
        (run.world (l + 1)).shared.stopping = true ∨
          ¬(a.takes (run.world m).shared id = true ∧
            ((run.world m).shared.leaseOf id).state = .lost)) := by
  cases creating hid run.length (Nat.le_refl _) t ht hkind with
  | asking _ htodo =>
    rw [hdone] at htodo
    cases htodo
  | taking _ _ _ _ _ _ htodo =>
    rw [hdone] at htodo
    cases htodo
  | adopted hok _ =>
    rw [hfailed] at hok
    cases hok
  | ended m l horder _ hleft houtside hinside _ =>
    obtain ⟨choice, a, hperforms, hleft⟩ := hleft
    have hworks : WorksOn run id j m l := by
      refine ⟨horder, fun k hk choice a hperforms => ?_, hinside⟩
      exact houtside k hperforms.lt_length hk choice a hperforms
    refine ⟨m, l, choice, a, hworks, hperforms, or_congr_right ?_⟩
    obtain ⟨htakes, hempty⟩ | ⟨htakes, hsame⟩ := hleft
    · have hunowned := Reaches.unowned (run.reaches m (Nat.le_of_lt hperforms.lt_length)) id
      rw [hempty]
      constructor
      · rintro hsame ⟨-, hlost⟩
        rw [← hsame] at hlost
        cases hlost
      · intro hwhen
        have havailable : ((run.world m).shared.leaseOf id).state = .empty := by
          have := taken_state htakes
          exact this.resolve_right fun hlost => hwhen ⟨htakes, hlost⟩
        have howner : ((run.world m).shared.leaseOf id).owner = none := hunowned havailable
        rw [← havailable, ← howner]
    · simp [hsame, htakes]

def failing : Choice := { Choice.willing with status := .insufficientResources }

-- VHF refuses the child of a slot that was empty.
def failingCreation : List (Event Choice Stimulus) :=
  .env (.start .d0Entry) :: willingly 0 3 ++
    .env (.start (.request (some 1) (.create ⟨0, .xboxOne, 0⟩))) :: willingly 1 9 ++
    .act 1 failing :: willingly 1 2

theorem failed_create_lease_empty : ∃ run : driver.Run (World.initial true), ∃ m l,
    WorksOn run ⟨0, by decide⟩ 1 m l ∧
      (run.world m).shared.KeepsLease (run.world (l + 1)).shared ⟨0, by decide⟩ := by
  let run : driver.Run (World.initial true) := ⟨failingCreation, by decide +kernel⟩
  have hnever : ∀ m < 17,
      ((run.world m).shared.leaseOf ⟨0, by decide⟩).state ≠ .lost := by decide +kernel
  obtain ⟨m, l, choice, a, hworks, hperforms, hkeeps⟩ :=
    failed_create_lease run 1 _ 1 ⟨0, .xboxOne, 0⟩ ⟨0, by decide⟩ rfl rfl rfl rfl rfl
  have hm : m < 17 := hperforms.lt_length
  exact ⟨run, m, l, hworks, hkeeps.mpr (.inr fun hlost => hnever m hm hlost.2)⟩

-- VHF refuses the child that is to replace the one a D0 exit has taken.
def failingRecreation : List (Event Choice Stimulus) :=
  creation ⟨0, .xboxOne, 0⟩ 1 ++ .env (.start .d0Exit) :: willingly 2 16 ++
    .env (.start .d0Entry) :: willingly 3 3 ++
    .env (.start (.request (some 1) (.create ⟨0, .xboxOne, 0⟩))) :: willingly 4 7 ++
    .act 4 failing :: willingly 4 2

theorem lost_lease_given_up : ∃ run : driver.Run (World.initial true), ∃ t,
    run.last.threads[4]? = some t ∧
      t.kind = .request (some 1) (.create ⟨0, .xboxOne, 0⟩) ∧ t.todo = [] ∧
        t.regs.status = .insufficientResources ∧
          (∀ event ∈ run.events.drop 41, ∃ choice, event = .act 4 choice) ∧
            (run.world 41).shared.leaseOf ⟨0, by decide⟩ = ⟨.lost, some 1⟩ ∧
              run.last.shared.leaseOf ⟨0, by decide⟩ = ⟨.empty, none⟩ ∧
                ¬(run.world 41).shared.KeepsLease run.last.shared ⟨0, by decide⟩ := by
  let run : driver.Run (World.initial true) := ⟨failingRecreation, by decide +kernel⟩
  have hlost : (run.world 41).shared.leaseOf ⟨0, by decide⟩ = ⟨.lost, some 1⟩ := by
    decide +kernel
  have hempty : run.last.shared.leaseOf ⟨0, by decide⟩ = ⟨.empty, none⟩ := by decide +kernel
  have hruns : run.last.shared.stopping = false := by decide +kernel
  have hevents : run.events.drop 41 = willingly 4 7 ++ .act 4 failing :: willingly 4 2 := rfl
  refine ⟨run, _, rfl, rfl, rfl, rfl, ?_, hlost, hempty, ?_⟩
  · intro event hevent
    rw [hevents] at hevent
    simp only [willingly, List.mem_append, List.mem_cons, List.mem_replicate] at hevent
    obtain ⟨-, rfl⟩ | rfl | ⟨-, rfl⟩ := hevent
    · exact ⟨_, rfl⟩
    · exact ⟨_, rfl⟩
    · exact ⟨_, rfl⟩
  · rintro (hstopping | hsame)
    · rw [hruns] at hstopping
      cases hstopping
    · rw [hempty, hlost] at hsame
      cases hsame

end Runs

end LibVirtualGamepad
