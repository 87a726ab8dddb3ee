import LibVirtualGamepad.Driver.ErrorLadder
import LibVirtualGamepad.Driver.Leases

-- What the acts of one file leave of another file's slots. Every section that serves
-- a request looks whose the slot is before it does anything to it.
namespace LibVirtualGamepad

open Interleaving

-- In use, and another file's.
def Slot.Foreign (slot : Slot) (file : File) : Prop :=
  slot.control.state ≠ .empty ∧ slot.control.owner ≠ some file

-- The file that a thread works for.
def Operation.file : Operation → Option File
  | .request owner _ => owner
  | .fileCleanup owner | .fileClose owner => some owner
  | _ => none

-- The slot that a request names.
def Request.names : Request → Option ControllerId
  | .create request => ControllerId.ofRequest request.controllerId
  | request => request.controllerId.bind ControllerId.ofRequest

-- The sections of a request that look at the owner first.
def SlotStep.checks (file : File) : SlotStep → Bool
  | .input owner _ | .beginUpdate owner _ | .query owner | .attributes owner _ | .poll owner =>
    owner == file
  | _ => false

namespace Act

-- The acts that look at the owner first, or touch no slot at all.
def checks (file : File) : Act → Bool
  | .lockLifetime | .unlockLifetime | .reply _ _ | .waitForSubmits _ | .deleteBegin _
  | .deleteEnd _ | .target _ | .keyboardMouse _ => true
  | .slot _ step => step.checks file
  | .destroy _ owner _ => owner == file
  | .create _ owner _ act => owner == file && !act.holdsSlot
  | _ => false

-- Those among them that only lead to such again.
def onlyChecks (file : File) : Act → Bool
  | .slot _ step => step.checks file && step.silent
  | .create _ _ _ _ => false
  | a => a.checks file

-- What a request does to the slot it names, while the slot is another file's.
def asks (file : File) (id : ControllerId) : Act → Bool
  | .lockLifetime | .unlockLifetime => true
  | .reply status _ => !status.ok
  | .slot i step => i == id && step.checks file
  | .destroy i owner .check => i == id && owner == file
  | .create i owner _ act => i == id && owner == file && !act.holdsSlot
  | _ => false

end Act

theorem checks_of_onlyChecks {file : File} {a : Act} (h : a.onlyChecks file = true) :
    a.checks file = true := by
  cases a with
  | slot id step => exact (Bool.and_eq_true_iff.mp h).1
  | create => cases h
  | _ => exact h

section Acts

variable {d : Device} {id : ControllerId} {file : File} {threads : List Task} {k : Operation}
  {regs : Registers} {choice : Choice} {a : Act} {o : Effect}

theorem not_owned_of_foreign (h : (d.controllers id).Foreign file) :
    (d.controllers id).control.isOwnedBy file = false := by
  simpa [SlotControl.isOwnedBy] using h.2

theorem not_available_of_foreign (h : (d.controllers id).Foreign file) :
    d.available id file = false := by
  simp [Device.available, h.1, not_owned_of_foreign h]

theorem createRefusal_of_foreign (h : (d.controllers id).Foreign file) :
    ∃ status, d.createRefusal id file = some status ∧ status.ok = false := by
  unfold Device.createRefusal
  rw [not_available_of_foreign h]
  split
  · exact ⟨_, rfl, rfl⟩
  · split
    · exact ⟨_, rfl, rfl⟩
    · exact ⟨_, rfl, rfl⟩

-- A section that finds another owner answers a refusal and does nothing.
theorem refused_section {s : Section} {step : SlotStep} {data : SlotData}
    (hstep : step.checks file = true) (howned : s.control.isOwnedBy file = false) :
    ∃ status, step.run s data = { data := data, status := some status } ∧ status.ok = false := by
  have hinactive (owner : File) : (s.inactiveControllerStatus owner).ok = false := by
    unfold Section.inactiveControllerStatus
    split <;> rfl
  cases step with
  | input owner request =>
    obtain rfl : owner = file := by simpa [SlotStep.checks] using hstep
    refine ⟨_, ?_, hinactive owner⟩
    simp [SlotStep.run, Section.input, howned]
  | beginUpdate owner update =>
    obtain rfl : owner = file := by simpa [SlotStep.checks] using hstep
    simp only [SlotStep.run, Section.beginUpdate, howned]
    split
    · exact ⟨_, rfl, rfl⟩
    · exact ⟨_, rfl, rfl⟩
  | query owner =>
    obtain rfl : owner = file := by simpa [SlotStep.checks] using hstep
    simp only [SlotStep.run, Section.query, howned]
    split
    · exact ⟨_, rfl, rfl⟩
    · exact ⟨_, rfl, rfl⟩
  | attributes owner request =>
    obtain rfl : owner = file := by simpa [SlotStep.checks] using hstep
    simp only [SlotStep.run, Section.attributes, howned]
    split
    · exact ⟨_, rfl, rfl⟩
    · exact ⟨_, rfl, rfl⟩
  | poll owner =>
    obtain rfl : owner = file := by simpa [SlotStep.checks] using hstep
    simp only [SlotStep.run, Section.poll, howned]
    split
    · exact ⟨_, rfl, rfl⟩
    · exact ⟨_, rfl, rfl⟩
  | _ => cases hstep

theorem setSlot_self (d : Device) (id : ControllerId) : d.setSlot id (d.controllers id) = d := by
  simp [Device.setSlot]

theorem refused_slot {step : SlotStep} (hstep : step.checks file = true)
    (howned : (d.controllers id).control.isOwnedBy file = false) :
    ∃ status, step.exec d regs choice id = d.effect ⟨status, regs.output⟩ [] ∧
      status.ok = false := by
  have hrefused : ∃ status, step.run (d.sectionOf id choice.now) (d.controllers id).data =
      { data := (d.controllers id).data, status := some status } ∧ status.ok = false :=
    refused_section hstep howned
  obtain ⟨status, hrun, hstatus⟩ := hrefused
  refine ⟨status, ?_, hstatus⟩
  unfold SlotStep.exec
  rw [hrun]
  show (d.setSlot id (d.controllers id)).effect ⟨status, regs.output⟩ [] = _
  rw [setSlot_self]

theorem controllers_slot {step : SlotStep} {i : ControllerId} (hi : i ≠ id) :
    (step.exec d regs choice id).shared.controllers i = d.controllers i := by
  obtain ⟨-, hcontrollers, -, -⟩ := afterSection_eq d id
    (step.run (d.sectionOf id choice.now) (d.controllers id).data) choice.now
  have hafter : (step.exec d regs choice id).shared.controllers = _ := hcontrollers
  rw [hafter]
  exact setSlot_controllers_of_ne hi

theorem foreign_create {owner : File} {profile : Profile} {i : ControllerId} {act : CreateAct}
    (howner : owner = file) (hact : act.holdsSlot = false) (h : (d.controllers i).Foreign file) :
    (act.exec d regs choice id owner profile).shared.controllers i = d.controllers i := by
  subst howner
  cases act with
  | check =>
    simp only [CreateAct.exec]
    split <;> rfl
  | enumerate generation => rfl
  | «begin» generation childPresent =>
    by_cases hi : i = id
    · subst hi
      obtain ⟨status, hrefused, -⟩ := createRefusal_of_foreign h
      simp only [CreateAct.exec, hrefused]
      rfl
    · simp only [CreateAct.exec]
      repeat' split
      · rfl
      · rfl
      · exact setSlot_controllers_of_ne hi
  | _ => cases hact

theorem foreign_destroy {i : ControllerId} (act : DestroyAct) (h : (d.controllers i).Foreign file) :
    (act.exec d regs id file).shared.controllers i = d.controllers i := by
  by_cases hi : i = id
  · subst hi
    have howned := not_owned_of_foreign h
    cases act with
    | check =>
      simp only [DestroyAct.exec]
      repeat' split
      all_goals rfl
    | detach =>
      simp only [DestroyAct.exec, howned]
      rfl
    | finish =>
      simp only [DestroyAct.exec, howned]
      rfl
  · cases act with
    | check =>
      simp only [DestroyAct.exec]
      repeat' split
      all_goals rfl
    | detach =>
      simp only [DestroyAct.exec]
      split
      · rfl
      split
      · exact setSlot_controllers_of_ne hi
      split
      · exact setSlot_controllers_of_ne hi
      · rw [discardFeedback_setControl]
        exact setSlot_controllers_of_ne hi
    | finish =>
      simp only [DestroyAct.exec]
      split
      · exact setSlot_controllers_of_ne hi
      · rfl

-- An act that looks first leaves another file's slot as it is.
theorem foreign_checked {i : ControllerId} (ha : a.checks file = true)
    (hexec : a.exec threads d k regs choice = some o) (h : (d.controllers i).Foreign file) :
    o.shared.controllers i = d.controllers i := by
  cases a with
  | slot id step =>
    cases hexec
    by_cases hi : i = id
    · subst hi
      have hslot : ∃ status, step.exec d regs choice i = d.effect ⟨status, regs.output⟩ [] ∧
          status.ok = false := refused_slot ha (not_owned_of_foreign h)
      obtain ⟨status, hrefused, -⟩ := hslot
      rw [hrefused]
      rfl
    · exact controllers_slot hi
  | create id owner profile act =>
    cases hexec
    simp only [Act.checks, Bool.and_eq_true, beq_iff_eq, Bool.not_eq_true'] at ha
    exact foreign_create ha.1 ha.2 h
  | destroy id owner act =>
    cases hexec
    obtain rfl : owner = file := by simpa [Act.checks] using ha
    exact foreign_destroy act h
  | target act =>
    cases hexec
    cases act <;> simp only [TargetAct.exec] <;> (repeat' split) <;> rfl
  | keyboardMouse act => exact congrFun (keyboardMouse_only hexec).1.controllers i
  | lockLifetime | waitForSubmits id | deleteEnd handle =>
    simp only [Act.exec] at hexec
    split at hexec <;> cases hexec
    rfl
  | unlockLifetime | reply status output | deleteBegin handle =>
    cases hexec
    rfl
  | _ => cases ha

-- What it leads to.
theorem onlyChecks_target (act : TargetAct) :
    ∀ b ∈ (act.exec d regs choice).next, b.onlyChecks file = true := by
  cases act <;> simp only [TargetAct.exec] <;> (repeat' split) <;>
    simp [Device.effect, Act.onlyChecks, Act.checks]

theorem onlyChecks_keyboardMouse {act : KeyboardMouseAct} (h : act.exec d regs choice = some o) :
    ∀ b ∈ o.next, b.onlyChecks file = true := by
  cases act with
  | authorize owner request =>
    simp only [KeyboardMouseAct.exec] at h
    split at h <;> cases h
    · cases request <;> simp [Device.effect, KeyboardMouseRequest.program, Act.onlyChecks, Act.checks]
    · exact List.forall_mem_nil _
  | detach retainLostOwner =>
    simp only [KeyboardMouseAct.exec] at h
    split at h <;> cases h
    · intro b hb
      simp only [Device.effect, List.mem_append, List.mem_singleton] at hb
      obtain (hb | hb) | rfl := hb
      · split at hb
        · simp only [List.mem_cons, List.not_mem_nil, or_false] at hb
          obtain rfl | rfl := hb
          · rfl
          · rfl
        · cases hb
      · split at hb
        · rw [List.mem_singleton.mp hb]
          rfl
        · cases hb
      · rfl
    · simp [Device.effect, Act.onlyChecks, Act.checks]
  | _ =>
    simp only [KeyboardMouseAct.exec] at h
    repeat' split at h
    all_goals cases h
    all_goals simp [Device.effect, targetOpen, deleteStoppedKeyboardMouse, Act.onlyChecks, Act.checks]

theorem onlyChecks_destroy (act : DestroyAct) :
    ∀ b ∈ (act.exec d regs id file).next, b.onlyChecks file = true := by
  cases act with
  | check =>
    simp only [DestroyAct.exec]
    repeat' split
    all_goals simp [Device.effect, Act.onlyChecks, Act.checks]
  | detach =>
    simp only [DestroyAct.exec]
    repeat' split
    all_goals simp [Device.effect, deleteAfterSubmits, Act.onlyChecks, Act.checks]
  | finish =>
    simp only [DestroyAct.exec]
    repeat' split
    all_goals simp [Device.effect]

theorem onlyChecks_next (ha : a.onlyChecks file = true)
    (hexec : a.exec threads d k regs choice = some o) : ∀ b ∈ o.next, b.onlyChecks file = true := by
  cases a with
  | slot id step =>
    cases hexec
    simp only [Act.onlyChecks, Bool.and_eq_true] at ha
    obtain ⟨hsubmit, hstart, hnext⟩ :=
      @silent_run (d.sectionOf id choice.now) (d.controllers id).data step ha.2
    simp [SlotStep.exec, Device.effect, hsubmit, hstart, hnext]
  | destroy id owner act =>
    cases hexec
    obtain rfl : owner = file := by simpa [Act.onlyChecks, Act.checks] using ha
    exact onlyChecks_destroy act
  | target act =>
    cases hexec
    exact onlyChecks_target act
  | keyboardMouse act => exact onlyChecks_keyboardMouse hexec
  | lockLifetime | waitForSubmits id | deleteEnd handle =>
    simp only [Act.exec] at hexec
    split at hexec <;> cases hexec
    exact List.forall_mem_nil _
  | unlockLifetime | reply status output | deleteBegin handle =>
    cases hexec
    exact List.forall_mem_nil _
  | _ => cases ha

-- A request for another file's slot is refused wherever it looks.
theorem asks_next (ha : a.asks file id = true) (hexec : a.exec threads d k regs choice = some o)
    (h : (d.controllers id).Foreign file) (hregs : regs.status.ok = false) :
    o.regs.status.ok = false ∧ ∀ b ∈ o.next, b.asks file id = true := by
  cases a with
  | slot i step =>
    cases hexec
    simp only [Act.asks, Bool.and_eq_true, beq_iff_eq] at ha
    obtain ⟨rfl, hstep⟩ := ha
    have hslot : ∃ status, step.exec d regs choice i = d.effect ⟨status, regs.output⟩ [] ∧
        status.ok = false := refused_slot hstep (not_owned_of_foreign h)
    obtain ⟨status, hrefused, hstatus⟩ := hslot
    rw [hrefused]
    exact ⟨hstatus, List.forall_mem_nil _⟩
  | create i owner profile act =>
    cases hexec
    simp only [Act.asks, Bool.and_eq_true, beq_iff_eq, Bool.not_eq_true'] at ha
    obtain ⟨⟨rfl, rfl⟩, hact⟩ := ha
    obtain ⟨status, hrefused, hstatus⟩ := createRefusal_of_foreign h
    cases act with
    | check =>
      simp only [CreateAct.exec, hrefused]
      exact ⟨hstatus, List.forall_mem_nil _⟩
    | enumerate generation =>
      refine ⟨hregs, ?_⟩
      simp [CreateAct.exec, Device.effect, Act.asks, CreateAct.holdsSlot]
    | «begin» generation childPresent =>
      simp only [CreateAct.exec, hrefused]
      exact ⟨hstatus, List.forall_mem_nil _⟩
    | _ => cases hact
  | destroy i owner act =>
    cases hexec
    cases act with
    | check =>
      simp only [Act.asks, Bool.and_eq_true, beq_iff_eq] at ha
      obtain ⟨rfl, rfl⟩ := ha
      simp only [DestroyAct.exec, not_owned_of_foreign h]
      split
      · exact ⟨rfl, List.forall_mem_nil _⟩
      · exact ⟨rfl, List.forall_mem_nil _⟩
    | _ => cases ha
  | reply status output =>
    cases hexec
    simp only [Act.asks, Bool.not_eq_true'] at ha
    exact ⟨ha, List.forall_mem_nil _⟩
  | lockLifetime =>
    simp only [Act.exec] at hexec
    split at hexec <;> cases hexec
    exact ⟨hregs, List.forall_mem_nil _⟩
  | unlockLifetime =>
    cases hexec
    exact ⟨hregs, List.forall_mem_nil _⟩
  | _ => cases ha

theorem program_asks {request : Request} (hnames : request.names = some id) :
    ∀ b ∈ request.program file, b.asks file id = true := by
  cases request with
  | query asked =>
    cases asked with
    | none => cases hnames
    | some asked =>
      simp only [Request.names, Request.controllerId, Option.bind_some] at hnames
      simp [Request.program, withSlot, hnames, Act.asks, SlotStep.checks]
  | keyboardMouse request => cases hnames
  | create request =>
    simp only [Request.names] at hnames
    simp only [Request.program, withSlot, hnames]
    split
    · simp [Act.asks, NtStatus.ok]
    · split
      · simp [Act.asks, NtStatus.ok]
      · simp [Act.asks, CreateAct.holdsSlot]
  | destroy asked | attributes update | poll asked =>
    simp only [Request.names, Request.controllerId, Option.bind_some] at hnames
    simp [Request.program, withSlot, hnames, Act.asks, SlotStep.checks]
  | input input =>
    simp only [Request.names, Request.controllerId, Option.bind_some] at hnames
    simp only [Request.program, withSlot, hnames]
    split
    · simp [Act.asks, NtStatus.ok]
    · simp [gated, Act.asks, SlotStep.checks]
  | touch update | motion update | battery update =>
    simp only [Request.names, Request.controllerId, Option.bind_some] at hnames
    simp only [Request.program]
    split
    · simp [Act.asks, NtStatus.ok]
    · simp [stateUpdate, withSlot, hnames, gated, Act.asks, SlotStep.checks]

end Acts

end LibVirtualGamepad
