import LibVirtualGamepad.Driver.Frame
import LibVirtualGamepad.Interleaving.Run

-- What a request answers about the slot it names: not found, access denied, or removed.
namespace LibVirtualGamepad

open Interleaving

def NtStatus.isRung : NtStatus → Bool
  | .notFound | .accessDenied | .deviceRemoved => true
  | _ => false

namespace Request

def controllerId : Request → Option UInt32
  | .query id => id
  | .destroy id => some id
  | .input request => some request.controllerId
  | .touch request => some request.controllerId
  | .motion request => some request.controllerId
  | .battery request => some request.controllerId
  | .attributes request => some request.controllerId
  | .poll id => some id
  | .create _ | .keyboardMouse _ => none

def reservedClear : Request → Bool
  | .input request => request.reserved == 0
  | .touch request => request.reserved == 0
  | .motion request => request.reserved0 == (0, 0, 0)
  | .battery request => request.reserved == 0
  | _ => true

-- The requests that need the slot's controller to be there.
def needsActive : Request → Bool
  | .input _ | .touch _ | .motion _ | .battery _ | .poll _ => true
  | _ => false

def isInput : Request → Bool
  | .input _ => true
  | _ => false

-- The section that looks at the slot.
def checkOn (owner : File) (id : ControllerId) : Request → Option Act
  | .query _ => some (.slot id (.query owner))
  | .destroy _ => some (.destroy id owner .check)
  | .input request => some (.slot id (.input owner request))
  | .touch request => some (.slot id (.beginUpdate owner (.touch request)))
  | .motion request => some (.slot id (.beginUpdate owner (.motion request)))
  | .battery request => some (.slot id (.beginUpdate owner (.battery request)))
  | .attributes request => some (.slot id (.attributes owner request))
  | .poll _ => some (.slot id (.poll owner))
  | .create _ | .keyboardMouse _ => none

def check (owner : File) (request : Request) : Option (ControllerId × Act) :=
  (request.controllerId.bind ControllerId.ofRequest).bind fun id =>
    (request.checkOn owner id).map fun act => (id, act)

end Request

-- The contract that the requests share.
structure FollowsLadder (request : Request) (owner : File) (control : SlotControl)
    (status : NtStatus) : Prop where
  notFound : status = .notFound ↔ control.state = .empty
  accessDenied : control.state ≠ .empty →
    (status = .accessDenied ↔ control.isOwnedBy owner = false)
  deviceRemoved : request.needsActive = true → control.state ≠ .empty →
    control.isOwnedBy owner = true → (status = .deviceRemoved ↔ control.state = .lost)

-- The answers as they are: an input tells neither an empty slot nor another file's.
structure Answer (request : Request) (owner : File) (control : SlotControl) (status : NtStatus) :
    Prop where
  notFound : status = .notFound ↔ request.isInput = false ∧ control.state = .empty
  accessDenied : status = .accessDenied ↔
    request.isInput = false ∧ control.state ≠ .empty ∧ control.isOwnedBy owner = false
  deviceRemoved : status = .deviceRemoved ↔
    request.needsActive = true ∧ control.isOwnedBy owner = true ∧ control.state = .lost

section Answers

variable {request : Request} {owner : File} {control : SlotControl} {status : NtStatus}

theorem isRung_iff : status.isRung = true ↔
    status = .notFound ∨ status = .accessDenied ∨ status = .deviceRemoved := by
  cases status <;> simp [NtStatus.isRung]

theorem Answer.followsLadder_iff (h : Answer request owner control status) :
    FollowsLadder request owner control status ↔
      ¬(request.isInput = true ∧ (control.state = .empty ∨ control.isOwnedBy owner = false)) := by
  constructor
  · rintro hladder ⟨hinput, hslot⟩
    have hnot : ¬request.isInput = false := by simp [hinput]
    by_cases hempty : control.state = .empty
    · exact hnot (h.notFound.1 (hladder.notFound.2 hempty)).1
    · have hforeign := hslot.resolve_left hempty
      exact hnot (h.accessDenied.1 ((hladder.accessDenied hempty).2 hforeign)).1
  · intro hwhen
    by_cases hinput : request.isInput = true
    · have hempty : control.state ≠ .empty := fun hempty => hwhen ⟨hinput, .inl hempty⟩
      have howned : control.isOwnedBy owner ≠ false := fun hforeign =>
        hwhen ⟨hinput, .inr hforeign⟩
      constructor
      · rw [h.notFound]
        simp [hinput, hempty]
      · intro _
        rw [h.accessDenied]
        simp [hinput, howned]
      · intro hneeds _ hown
        rw [h.deviceRemoved]
        simp [hneeds, hown]
    · have hother : request.isInput = false := by simpa using hinput
      constructor
      · rw [h.notFound]
        simp [hother]
      · intro hempty
        rw [h.accessDenied]
        simp [hother, hempty]
      · intro hneeds _ hown
        rw [h.deviceRemoved]
        simp [hneeds, hown]

-- The slot is the caller's and there: no rung is answered.
theorem answer_passed (hstatus : status.isRung = false) (hempty : control.state ≠ .empty)
    (howned : control.isOwnedBy owner = true)
    (hlost : request.needsActive = true → control.state ≠ .lost) :
    Answer request owner control status := by
  have hnone : ¬(status = .notFound ∨ status = .accessDenied ∨ status = .deviceRemoved) := by
    rw [← isRung_iff, hstatus]
    exact Bool.false_ne_true
  simp only [not_or] at hnone
  obtain ⟨hfound, hdenied, hremoved⟩ := hnone
  constructor
  · simp [hfound, hempty]
  · simp [hdenied, howned]
  · refine ⟨fun h => absurd h hremoved, ?_⟩
    rintro ⟨hneeds, -, hstate⟩
    exact absurd hstate (hlost hneeds)

-- An answer that is no rung may be replaced by another such.
theorem Answer.replace {other : NtStatus} (h : Answer request owner control status)
    (hstatus : status.isRung = false) (hother : other.isRung = false) :
    Answer request owner control other := by
  have hnone {s : NtStatus} (hs : s.isRung = false) :
      s ≠ .notFound ∧ s ≠ .accessDenied ∧ s ≠ .deviceRemoved := by
    refine ⟨?_, ?_, ?_⟩ <;> (rintro rfl; cases hs)
  obtain ⟨hf, hd, hr⟩ := hnone hstatus
  obtain ⟨hf', hd', hr'⟩ := hnone hother
  exact ⟨⟨fun heq => absurd heq hf', fun hthen => absurd (h.notFound.2 hthen) hf⟩,
    ⟨fun heq => absurd heq hd', fun hthen => absurd (h.accessDenied.2 hthen) hd⟩,
    ⟨fun heq => absurd heq hr', fun hthen => absurd (h.deviceRemoved.2 hthen) hr⟩⟩

end Answers

-- The sections a request goes on with once its slot has been looked at.
def SlotStep.follows : SlotStep → Bool
  | .applyUpdate _ | .carryMotion | .profileReport _ | .pumpReport _ _ => true
  | _ => false

-- A section that answers no rung and goes on with such.
structure Plain (r : StepResult) : Prop where
  status : ∀ status, r.status = some status → status.isRung = false
  next : ∀ step ∈ r.next, step.follows = true

structure CheckedSection (request : Request) (owner : File) (control : SlotControl) (r : StepResult) :
    Prop where
  answer : ∀ before : NtStatus, before.isRung = false →
    Answer request owner control (r.status.getD before)
  next : ∀ step ∈ r.next, step.follows = true
  -- A rung is the last word.
  ends : ∀ status, r.status = some status → status.isRung = true →
    r.submit = false ∧ r.startKeepalive = false ∧ r.next = []

section Sections

variable {request : Request} {owner : File} {s : Section} {data : SlotData}

theorem plain_pumpReport (report : Option QueuedReport) (answers : Bool) :
    Plain (s.pumpReport report answers data) := by
  unfold Section.pumpReport
  split
  · refine ⟨?_, fun _ h => (nomatch h)⟩
    intro status h
    split at h
    · cases h
      rfl
    · cases h
  · refine ⟨?_, fun _ h => (nomatch h)⟩
    intro status h
    dsimp only at h
    split at h
    · cases h
      rfl
    · cases h

theorem plain_followed {data : SlotData} {step : SlotStep} (h : step.follows = true) :
    Plain { data := data, next := [step] } := by
  refine ⟨fun _ hstatus => (nomatch hstatus), ?_⟩
  intro other hother
  rw [List.mem_singleton.1 hother]
  exact h

theorem plain_status {data : SlotData} {status : NtStatus} (h : status.isRung = false) :
    Plain { data := data, status := some status } := by
  refine ⟨?_, List.forall_mem_nil _⟩
  intro other hother
  rw [← Option.some.inj hother]
  exact h

theorem plain_profileReport (kind : ReportKind) : Plain (s.profileReport kind data) := by
  unfold Section.profileReport
  split
  · exact plain_status rfl
  split
  · exact plain_status rfl
  split
  · exact plain_pumpReport _ _
  split
  · exact plain_followed rfl
  · exact plain_followed rfl

theorem plain_carryMotion : Plain (s.carryMotion data) := by
  unfold Section.carryMotion
  split
  · exact plain_status rfl
  · exact plain_followed rfl

theorem plain_applyTouch (request : TouchStateRequest) : Plain (Section.applyTouch request data) := by
  unfold Section.applyTouch
  split
  · exact plain_status rfl
  split
  split
  · exact plain_followed rfl
  · exact plain_status rfl

theorem plain_applyMotion (request : MotionStateRequest) : Plain (s.applyMotion request data) := by
  unfold Section.applyMotion
  split
  split
  · exact plain_status rfl
  split
  · exact plain_followed rfl
  · exact plain_followed rfl

theorem plain_applyBattery (request : BatteryStateRequest) :
    Plain (s.applyBattery request data) := by
  unfold Section.applyBattery
  split
  · exact plain_followed rfl
  split
  · exact plain_followed rfl
  split
  · dsimp only
    split
    · exact plain_followed rfl
    · exact plain_status rfl
  · exact plain_followed rfl

theorem plain_of_follows {step : SlotStep} (h : step.follows = true) : Plain (step.run s data) := by
  cases step with
  | applyUpdate update =>
    cases update with
    | touch request => exact plain_applyTouch request
    | motion request => exact plain_applyMotion request
    | battery request => exact plain_applyBattery request
  | carryMotion => exact plain_carryMotion
  | profileReport kind => exact plain_profileReport kind
  | pumpReport report answers => exact plain_pumpReport report answers
  | _ => cases h

-- The slot is there and the caller's, and the section goes on.
theorem checked_plain {r : StepResult} (h : Plain r) (hempty : s.control.state ≠ .empty)
    (howned : s.control.isOwnedBy owner = true)
    (hlost : request.needsActive = true → s.control.state ≠ .lost) :
    CheckedSection request owner s.control r := by
  refine ⟨?_, h.next, ?_⟩
  · intro before hbefore
    cases hstatus : r.status with
    | none => exact answer_passed hbefore hempty howned hlost
    | some status => exact answer_passed (h.status status hstatus) hempty howned hlost
  · intro status hstatus hrung
    rw [h.status status hstatus] at hrung
    cases hrung

theorem checked_refused {status : NtStatus} (h : Answer request owner s.control status) :
    CheckedSection request owner s.control { data := data, status := some status } :=
  ⟨fun _ _ => h, List.forall_mem_nil _, fun _ _ _ => ⟨rfl, rfl, rfl⟩⟩

theorem answer_empty (hinput : request.isInput = false) (hempty : s.control.state = .empty) :
    Answer request owner s.control .notFound := by
  constructor <;> simp [hinput, hempty]

theorem answer_foreign (hinput : request.isInput = false) (hempty : s.control.state ≠ .empty)
    (hforeign : s.control.isOwnedBy owner = false) :
    Answer request owner s.control .accessDenied := by
  constructor <;> simp [hinput, hempty, hforeign]

-- A slot that is not active: removed when it is lost, not ready otherwise.
theorem answer_inactive (hneeds : request.needsActive = true) (hempty : s.control.state ≠ .empty)
    (howned : s.control.isOwnedBy owner = true) :
    Answer request owner s.control (s.inactiveControllerStatus owner) := by
  unfold Section.inactiveControllerStatus
  by_cases hlost : s.control.state = .lost
  · simp only [howned, hlost, beq_self_eq_true, Bool.and_self, if_true]
    constructor <;> simp [howned, hneeds, hlost]
  · have hbeq : (s.control.state == SlotState.lost) = false := by simpa using hlost
    simp only [howned, hbeq, Bool.and_false, Bool.false_eq_true, if_false]
    exact answer_passed rfl hempty howned fun _ => hlost

-- An input is told no more than that, of an empty slot and of another file's too.
theorem answer_input (input : InputStateRequest) :
    Answer (.input input) owner s.control (s.inactiveControllerStatus owner) := by
  unfold Section.inactiveControllerStatus
  by_cases hlost : s.control.isOwnedBy owner = true ∧ s.control.state = .lost
  · obtain ⟨howned, hstate⟩ := hlost
    simp only [howned, hstate, beq_self_eq_true, Bool.and_self, if_true]
    constructor <;> simp [Request.isInput, Request.needsActive, howned, hstate]
  · have hbeq : ¬(s.control.isOwnedBy owner && s.control.state == .lost) = true := by
      simpa only [Bool.and_eq_true, beq_iff_eq] using hlost
    rw [if_neg hbeq]
    constructor
    · simp [Request.isInput]
    · simp [Request.isInput]
    · simpa [Request.needsActive] using hlost

theorem isActive_state (h : s.isActive = true) : s.control.state = .active := by
  simp only [Section.isActive, Bool.and_eq_true, beq_iff_eq] at h
  exact h.1.2

theorem plain_input {input : InputStateRequest}
    (h : (s.control.state == .empty || !s.control.isOwnedBy owner || !s.isActive) = false) :
    Plain (s.input owner input data) := by
  unfold Section.input
  rw [h]
  simp only [Bool.false_eq_true, if_false]
  split
  · exact plain_followed rfl
  split
  · exact ⟨(plain_pumpReport _ _).status, (plain_pumpReport _ _).next⟩
  split
  · exact plain_followed rfl
  split
  · exact plain_followed rfl
  split
  · exact plain_followed rfl
  · exact plain_status rfl

theorem checked_input (input : InputStateRequest) :
    CheckedSection (.input input) owner s.control (s.input owner input data) := by
  by_cases hrefused : (s.control.state == .empty || !s.control.isOwnedBy owner || !s.isActive) = true
  · unfold Section.input
    rw [if_pos hrefused]
    exact checked_refused (answer_input input)
  · simp only [Bool.not_eq_true] at hrefused
    have hplain : Plain (s.input owner input data) := plain_input hrefused
    simp only [Bool.or_eq_false_iff, Bool.not_eq_false', beq_eq_false_iff_ne] at hrefused
    obtain ⟨⟨hempty, howned⟩, hactive⟩ := hrefused
    exact checked_plain hplain hempty howned fun _ => by simp [isActive_state hactive]

-- The checks that are made one after the other.
theorem checked_ladder {r : StepResult} (hinput : request.isInput = false)
    (h : s.control.state ≠ .empty → s.control.isOwnedBy owner = true →
      CheckedSection request owner s.control r) :
    CheckedSection request owner s.control
      (if s.control.state == .empty then { data := data, status := some .notFound }
        else if !s.control.isOwnedBy owner then { data := data, status := some .accessDenied }
        else r) := by
  by_cases hempty : s.control.state = .empty
  · rw [if_pos (by simpa using hempty)]
    exact checked_refused (answer_empty hinput hempty)
  · rw [if_neg (by simpa using hempty)]
    by_cases howned : s.control.isOwnedBy owner = true
    · rw [if_neg (by simpa using howned)]
      exact h hempty howned
    · rw [if_pos (by simpa using howned)]
      exact checked_refused (answer_foreign hinput hempty (by simpa using howned))

theorem checked_update (hinput : request.isInput = false) (hneeds : request.needsActive = true)
    (update : StateUpdate) :
    CheckedSection request owner s.control (s.beginUpdate owner update data) := by
  refine checked_ladder hinput fun hempty howned => ?_
  by_cases hactive : s.isActive = true
  · rw [if_neg (by simpa using hactive)]
    have hlost : s.control.state ≠ .lost := by simp [isActive_state hactive]
    split
    · exact checked_plain (plain_status rfl) hempty howned fun _ => hlost
    · exact checked_plain (plain_followed rfl) hempty howned fun _ => hlost
  · rw [if_pos (by simpa using hactive)]
    exact checked_refused (answer_inactive hneeds hempty howned)

theorem checked_query (id : Option UInt32) :
    CheckedSection (.query id) owner s.control (s.query owner data) := by
  refine checked_ladder rfl fun hempty howned => ?_
  refine checked_plain ⟨?_, List.forall_mem_nil _⟩ hempty howned nofun
  intro status hstatus
  cases hstatus
  rfl

theorem checked_attributes (update : SteamControllerAttributesRequest) :
    CheckedSection (.attributes update) owner s.control (s.attributes owner update data) := by
  refine checked_ladder rfl fun hempty howned => ?_
  split
  · exact checked_plain (plain_status rfl) hempty howned nofun
  · exact checked_plain (plain_status rfl) hempty howned nofun

theorem checked_poll (id : UInt32) :
    CheckedSection (.poll id) owner s.control (s.poll owner data) := by
  refine checked_ladder rfl fun hempty howned => ?_
  by_cases hactive : s.control.state = .active
  · rw [if_neg (by simpa using hactive)]
    have hlost : s.control.state ≠ .lost := by simp [hactive]
    split
    · exact checked_plain (plain_status rfl) hempty howned fun _ => hlost
    · refine checked_plain ⟨?_, List.forall_mem_nil _⟩ hempty howned fun _ => hlost
      intro status hstatus
      cases hstatus
      rfl
  · rw [if_pos (by simpa using hactive)]
    exact checked_refused (answer_inactive rfl hempty howned)

end Sections

-- What a request goes on with once its slot has been looked at.
def Act.follows : Act → Bool
  | .slot _ step => step.follows
  | .destroy _ _ .detach | .destroy _ _ .finish => true
  | .lockLifetime | .unlockLifetime | .submitEnter .. | .submitLeave .. | .waitForSubmits _
  | .deleteBegin _ | .deleteEnd _ | .keepalive _ => true
  | .reply .. | .destroy .. | .target _ | .create .. | .power _ | .keyboardMouse _ => false

-- A status, and what the thread still has to do before it answers it.
structure Answering (status : NtStatus) (todo : List Act) : Prop where
  follows : ∀ act ∈ todo, act.follows = true
  ends : status.isRung = true → ∀ act ∈ todo, act = .unlockLifetime

section Acts

variable {request : Request} {owner : File} {id : ControllerId} {threads : List Task} {d : Device}
  {k : Operation} {regs : Registers} {choice : Choice} {a : Act} {o : Effect}

theorem follows_startKeepalive : ∀ act ∈ startKeepalive, act.follows = true := by
  decide

theorem follows_submission (answers : Bool) :
    ∀ act ∈ d.submission id answers, act.follows = true := by
  unfold Device.submission
  split
  · intro act hact
    rw [List.mem_singleton.1 hact]
    rfl
  · exact List.forall_mem_nil _

theorem follows_slot {step : SlotStep}
    (h : ∀ next ∈ (step.run (d.sectionOf id choice.now) (d.controllers id).data).next,
      next.follows = true) :
    ∀ act ∈ (step.exec d regs choice id).next, act.follows = true := by
  intro act hact
  simp only [SlotStep.exec, Device.effect, List.mem_append, List.mem_map] at hact
  obtain (hstart | hsubmit) | ⟨next, hnext, rfl⟩ := hact
  · split at hstart
    · exact follows_startKeepalive act hstart
    · cases hstart
  · split at hsubmit
    · exact follows_submission _ act hsubmit
    · cases hsubmit
  · exact h next hnext

theorem regs_keepalive {act : KeepaliveAct} (h : act.exec threads d regs choice = some o) :
    o.regs = regs ∧ ∀ next ∈ o.next, next.follows = true := by
  cases act with
  | tick =>
    cases h
    refine ⟨rfl, ?_⟩
    intro next hnext
    simp only [Device.effect, List.mem_append, List.mem_flatMap] at hnext
    obtain ⟨id, -, hsubmit⟩ | hlast := hnext
    · split at hsubmit
      · exact follows_submission _ next hsubmit
      · cases hsubmit
    · split at hlast
      · rw [List.mem_singleton.1 hlast]
        rfl
      · simp only [List.mem_cons, List.not_mem_nil, or_false] at hlast
        obtain rfl | rfl := hlast
        · rfl
        · rfl
  | _ =>
    simp only [KeepaliveAct.exec] at h
    repeat' split at h
    all_goals cases h <;> exact ⟨rfl, by simp [Device.effect, Act.follows]⟩

theorem follows_destroy {act : DestroyAct} (hact : act ≠ .check) :
    (act.exec d regs id owner).regs = regs ∧
      ∀ next ∈ (act.exec d regs id owner).next, next.follows = true := by
  cases act with
  | check => exact absurd rfl hact
  | detach =>
    unfold DestroyAct.exec
    dsimp only
    split
    · exact ⟨rfl, List.forall_mem_nil _⟩
    split
    · exact ⟨rfl, List.forall_mem_nil _⟩
    split
    · exact ⟨rfl, List.forall_mem_nil _⟩
    · refine ⟨rfl, ?_⟩
      intro next hnext
      simp only [Device.effect, List.mem_append, List.mem_singleton] at hnext
      obtain hdelete | rfl := hnext
      · split at hdelete
        · simp only [deleteAfterSubmits, List.mem_cons, List.not_mem_nil, or_false] at hdelete
          obtain rfl | rfl | rfl := hdelete
          · rfl
          · rfl
          · rfl
        · cases hdelete
      · rfl
  | finish =>
    unfold DestroyAct.exec
    dsimp only
    split
    · exact ⟨rfl, List.forall_mem_nil _⟩
    · exact ⟨rfl, List.forall_mem_nil _⟩

-- No such act turns the status into a rung, unless VHF answers one.
theorem follows_exec (hfollows : a.follows = true) (h : a.exec threads d k regs choice = some o)
    (hvhf : ∀ id handle answers, a = .submitLeave id handle answers → choice.status.isRung = false)
    (hregs : regs.status.isRung = false) :
    o.regs.status.isRung = false ∧ ∀ next ∈ o.next, next.follows = true := by
  cases a with
  | slot id step =>
    cases h
    have hplain : Plain (step.run (d.sectionOf id choice.now) (d.controllers id).data) :=
      plain_of_follows hfollows
    refine ⟨?_, follows_slot hplain.next⟩
    simp only [SlotStep.exec, Device.effect]
    cases hstatus : (step.run (d.sectionOf id choice.now) (d.controllers id).data).status with
    | none => exact hregs
    | some status => exact hplain.status status hstatus
  | destroy id owner act =>
    cases h
    have hact : act ≠ .check := by
      rintro rfl
      cases hfollows
    have hdestroy : (act.exec d regs id owner).regs = regs ∧
        ∀ next ∈ (act.exec d regs id owner).next, next.follows = true := follows_destroy hact
    obtain ⟨hsame, hnext⟩ := hdestroy
    rw [hsame]
    exact ⟨hregs, hnext⟩
  | keepalive act =>
    obtain ⟨hsame, hnext⟩ := regs_keepalive h
    rw [hsame]
    exact ⟨hregs, hnext⟩
  | submitLeave id handle answers =>
    cases h
    refine ⟨?_, List.forall_mem_nil _⟩
    cases answers with
    | false => exact hregs
    | true => exact hvhf id handle true rfl
  | lockLifetime | waitForSubmits | deleteEnd =>
    simp only [Act.exec] at h
    split at h <;> cases h
    exact ⟨hregs, List.forall_mem_nil _⟩
  | submitEnter id handle answers =>
    cases h
    refine ⟨hregs, ?_⟩
    intro next hnext
    rw [List.mem_singleton.1 hnext]
    rfl
  | unlockLifetime | deleteBegin =>
    cases h
    exact ⟨hregs, List.forall_mem_nil _⟩
  | reply | target | create | power | keyboardMouse => cases hfollows

-- What the check leaves, with nothing done before it.
theorem checked_slot {step : SlotStep}
    (h : CheckedSection request owner (d.sectionOf id choice.now).control
      (step.run (d.sectionOf id choice.now) (d.controllers id).data))
    (hregs : regs.status.isRung = false) :
    Answer request owner (d.controllers id).control (step.exec d regs choice id).regs.status ∧
      Answering (step.exec d regs choice id).regs.status (step.exec d regs choice id).next := by
  refine ⟨h.answer regs.status hregs, follows_slot h.next, ?_⟩
  intro hrung
  simp only [SlotStep.exec, Device.effect] at hrung ⊢
  cases hstatus : (step.run (d.sectionOf id choice.now) (d.controllers id).data).status with
  | none =>
    rw [hstatus, Option.getD_none, hregs] at hrung
    cases hrung
  | some status =>
    rw [hstatus, Option.getD_some] at hrung
    obtain ⟨hsubmit, hstart, hnext⟩ := h.ends status hstatus hrung
    simp only [hsubmit, hstart, hnext, Bool.false_eq_true, if_false, List.map_nil, List.append_nil]
    exact List.forall_mem_nil _

theorem checked_destroy (asked : UInt32) :
    Answer (.destroy asked) owner (d.controllers id).control
        (DestroyAct.check.exec d regs id owner).regs.status ∧
      Answering (DestroyAct.check.exec d regs id owner).regs.status
        (DestroyAct.check.exec d regs id owner).next := by
  unfold DestroyAct.exec
  dsimp only
  by_cases hempty : (d.controllers id).control.state = .empty
  · rw [if_pos (by simpa using hempty)]
    refine ⟨?_, List.forall_mem_nil _, fun _ => List.forall_mem_nil _⟩
    constructor <;> simp [Device.effect, Registers.fail, Request.isInput, hempty]
  · rw [if_neg (by simpa using hempty)]
    by_cases howned : (d.controllers id).control.isOwnedBy owner = true
    · rw [if_neg (by simpa using howned)]
      refine ⟨answer_passed rfl hempty howned ?lost, ?follows, ?ends⟩
      case lost =>
        intro hactive
        cases hactive
      case ends =>
        intro hrung
        cases hrung
      intro act hact
      simp only [Device.effect, List.mem_cons, List.not_mem_nil, or_false] at hact
      obtain rfl | rfl | rfl := hact
      · rfl
      · rfl
      · rfl
    · rw [if_pos (by simpa using howned)]
      refine ⟨?_, List.forall_mem_nil _, fun _ => List.forall_mem_nil _⟩
      have hforeign : (d.controllers id).control.isOwnedBy owner = false := by simpa using howned
      constructor <;> simp [Device.effect, Registers.fail, Request.isInput, hempty, hforeign]

theorem check_exec (hcheck : request.checkOn owner id = some a)
    (h : a.exec threads d k regs choice = some o) (hregs : regs.status.isRung = false) :
    Answer request owner (d.controllers id).control o.regs.status ∧
      Answering o.regs.status o.next := by
  cases request with
  | query asked =>
    cases hcheck
    cases h
    exact checked_slot (checked_query asked) hregs
  | destroy asked =>
    cases hcheck
    cases h
    exact checked_destroy asked
  | input input =>
    cases hcheck
    cases h
    exact checked_slot (checked_input input) hregs
  | touch update | motion update | battery update =>
    cases hcheck
    cases h
    exact checked_slot (checked_update rfl rfl _) hregs
  | attributes update =>
    cases hcheck
    cases h
    exact checked_slot (checked_attributes update) hregs
  | poll asked =>
    cases hcheck
    cases h
    exact checked_slot (checked_poll asked) hregs
  | create | keyboardMouse => cases hcheck

-- A thread with a rung in its hand only leaves the gate.
theorem answering_exec {rest : List Act} (h : Answering regs.status (a :: rest))
    (hexec : a.exec threads d k regs choice = some o)
    (hvhf : ∀ id handle answers, a = .submitLeave id handle answers → choice.status.isRung = false) :
    Answering o.regs.status (o.next ++ rest) ∧
      (o.regs.status = regs.status ∨
        regs.status.isRung = false ∧ o.regs.status.isRung = false) := by
  have hrest : ∀ act ∈ rest, act.follows = true := fun act hact =>
    h.follows act (List.mem_cons_of_mem _ hact)
  cases hrung : regs.status.isRung with
  | true =>
    have hhead := h.ends hrung a List.mem_cons_self
    have htail (act : Act) (hact : act ∈ rest) : act = .unlockLifetime :=
      h.ends hrung act (List.mem_cons_of_mem _ hact)
    subst hhead
    cases hexec
    exact ⟨⟨hrest, fun _ => htail⟩, .inl rfl⟩
  | false =>
    have hhead := h.follows a List.mem_cons_self
    obtain ⟨hstatus, hnext⟩ := follows_exec hhead hexec hvhf hrung
    refine ⟨⟨?_, ?_⟩, .inr ⟨rfl, hstatus⟩⟩
    · intro act hact
      obtain hact | hact := List.mem_append.1 hact
      · exact hnext act hact
      · exact hrest act hact
    · intro habsurd
      rw [hstatus] at habsurd
      cases habsurd

-- The program of a request that is in order is its check, in the gate or not.
theorem program_eq (hcheck : request.check owner = some (id, a))
    (hclear : request.reservedClear = true) :
    request.program owner = [a] ∨ request.program owner = gated [a] := by
  simp only [Request.check, Option.bind_eq_some_iff, Option.map_eq_some_iff, Prod.mk.injEq] at hcheck
  obtain ⟨slot, ⟨asked, hasked, hslot⟩, act, hon, rfl, rfl⟩ := hcheck
  cases request with
  | query id =>
    cases hon
    subst hasked
    simp only [Request.program, withSlot, hslot]
    exact .inl trivial
  | destroy id | attributes update | poll id =>
    cases hasked
    cases hon
    simp only [Request.program, withSlot, hslot]
    exact .inl trivial
  | input input =>
    cases hasked
    cases hon
    simp only [Request.reservedClear, beq_iff_eq] at hclear
    simp only [Request.program, withSlot, hslot, hclear]
    exact .inr rfl
  | touch update | motion update | battery update =>
    cases hasked
    cases hon
    simp only [Request.reservedClear, beq_iff_eq] at hclear
    simp only [Request.program, stateUpdate, withSlot, hslot, hclear]
    exact .inr rfl
  | create | keyboardMouse => cases hon

end Acts

section Runs

variable {keepalive : Bool} (run : driver.Run (World.initial keepalive))

-- The thread's check at a position, and what was answered to it there.
structure Decided (n j : Nat) (owner : File) (request : Request) (id : ControllerId) (a : Act)
    (status : NtStatus) : Prop where
  performed : ∃ choice, run.Performs n j choice a
  answer : Answer request owner ((run.world n).shared.controllers id).control status

-- A request on its way: in front of its check, or behind it.
inductive Handling (n j : Nat) (owner : File) (request : Request) (id : ControllerId) (a : Act)
    (t : Task) : Prop where
  | before (regs : t.regs = .initial)
      (todo : t.todo = gated [a] ∨ t.todo = [a, .unlockLifetime] ∨ t.todo = [a])
  | after (m : Nat) (before : m < n) (decided : Decided run m j owner request id a t.regs.status)
      (rest : Answering t.regs.status t.todo)

-- What VHF answers a submission of the thread with is no rung.
def VhfPlain (j : Nat) : Prop :=
  ∀ n choice id handle answers, run.Performs n j choice (.submitLeave id handle answers) →
    choice.status.isRung = false

variable {run} {j n : Nat} {owner : File} {request : Request} {id : ControllerId} {a : Act}
  {t : Task}

theorem Handling.later (h : Handling run n j owner request id a t) :
    Handling run (n + 1) j owner request id a t := by
  cases h with
  | before hregs htodo => exact .before hregs htodo
  | after m hm hdecided hrest => exact .after m (Nat.lt_succ_of_lt hm) hdecided hrest

theorem checkOn_of_check (hcheck : request.check owner = some (id, a)) :
    request.checkOn owner id = some a := by
  simp only [Request.check, Option.bind_eq_some_iff, Option.map_eq_some_iff, Prod.mk.injEq] at hcheck
  obtain ⟨slot, -, act, hon, rfl, rfl⟩ := hcheck
  exact hon

-- One act of the thread itself.
theorem Handling.act {choice : Choice} (hcheck : request.check owner = some (id, a))
    (hevent : run.events[n]? = some (.act j choice))
    (s : System.ActStep driver (run.world n) j choice (run.world (n + 1)))
    (hvhf : VhfPlain run j) (h : Handling run n j owner request id a s.thread) :
    Handling run (n + 1) j owner request id a (s.outcome.thread s.thread s.rest) := by
  have hperforms := System.Run.performs_of_step hevent s
  have hon := checkOn_of_check hcheck
  have hexec : s.act.exec (run.world n).threads (run.world n).shared s.thread.kind s.thread.regs
      choice = some s.outcome := s.exec
  cases h with
  | before hregs htodo =>
    have hinitial : s.thread.regs.status.isRung = false := by
      rw [hregs]
      rfl
    rw [s.todo] at htodo
    have hchecked (hact : s.act = a) (hrest : ∀ act ∈ s.rest, act = .unlockLifetime) :
        Handling run (n + 1) j owner request id a (s.outcome.thread s.thread s.rest) := by
      obtain ⟨hanswer, hanswering⟩ := check_exec (hact ▸ hon) hexec hinitial
      refine .after n (Nat.lt_succ_self n) ⟨⟨choice, hact ▸ hperforms⟩, hanswer⟩ ⟨?_, ?_⟩
      · intro act hmem
        obtain hnext | hmem := List.mem_append.1 hmem
        · exact hanswering.follows act hnext
        · rw [hrest act hmem]
          rfl
      · intro hrung act hmem
        obtain hnext | hmem := List.mem_append.1 hmem
        · exact hanswering.ends hrung act hnext
        · exact hrest act hmem
    obtain hgated | hopen | halone := htodo
    · obtain ⟨hact, hrest⟩ := List.cons_eq_cons.1 hgated
      rw [hact] at hexec
      simp only [Act.exec] at hexec
      split at hexec
      · cases hexec
      · have houtcome := Option.some.inj hexec
        refine .before ?_ (.inr (.inl ?_))
        · rw [← houtcome]
          exact hregs
        · rw [← houtcome, hrest]
          rfl
    · obtain ⟨hact, hrest⟩ := List.cons_eq_cons.1 hopen
      refine hchecked hact fun act hmem => ?_
      rw [hrest] at hmem
      exact List.mem_singleton.1 hmem
    · obtain ⟨hact, hrest⟩ := List.cons_eq_cons.1 halone
      refine hchecked hact fun act hmem => ?_
      rw [hrest] at hmem
      cases hmem
  | after m hm hdecided hrest =>
    rw [s.todo] at hrest
    have hthis (id : ControllerId) (handle : Handle) (answers : Bool)
        (hact : s.act = .submitLeave id handle answers) : choice.status.isRung = false :=
      hvhf n choice id handle answers (hact ▸ hperforms)
    obtain ⟨hanswering, hstatus⟩ := answering_exec hrest hexec hthis
    refine .after m (Nat.lt_succ_of_lt hm) ⟨hdecided.performed, ?_⟩ hanswering
    obtain hsame | ⟨hbefore, hafter⟩ := hstatus
    · show Answer _ _ _ s.outcome.regs.status
      rw [hsame]
      exact hdecided.answer
    · exact hdecided.answer.replace hbefore hafter

-- Every request that is in order, at every position of the run.
theorem underway (hcheck : request.check owner = some (id, a))
    (hclear : request.reservedClear = true) (hvhf : VhfPlain run j) :
    ∀ n, n ≤ run.length → ∀ t, (run.world n).threads[j]? = some t →
      t.kind = .request (some owner) request → Handling run n j owner request id a t := by
  refine call_induct (by simp) ?_ ?_ ?_
  · intro n _ _
    obtain hprogram | hprogram := program_eq hcheck hclear
    · exact .before rfl (.inr (.inr hprogram))
    · exact .before rfl (.inl hprogram)
  · intro n choice hevent s _ h
    exact h.act hcheck hevent s hvhf
  · intro n event t _ _ _ h
    exact h.later

-- A request that has returned answers what its check found; an input does when the
-- slot is in use and the caller's.
theorem error_ladder (run : driver.Run (World.initial keepalive)) (j : Nat) (t : Task)
    (owner : File) (request : Request) (id : ControllerId) (a : Act)
    (ht : run.last.threads[j]? = some t) (hkind : t.kind = .request (some owner) request)
    (hdone : t.todo = []) (hcheck : request.check owner = some (id, a))
    (hclear : request.reservedClear = true) (hvhf : VhfPlain run j) :
    ∃ n choice, run.Performs n j choice a ∧
      let control := ((run.world n).shared.controllers id).control
      (FollowsLadder request owner control t.regs.status ↔
        ¬(request.isInput = true ∧
          (control.state = .empty ∨ control.isOwnedBy owner = false))) := by
  cases underway hcheck hclear hvhf run.length (Nat.le_refl _) t ht hkind with
  | before _ htodo =>
    rw [hdone] at htodo
    obtain htodo | htodo | htodo := htodo
    · cases htodo
    · cases htodo
    · cases htodo
  | after n _ hdecided _ =>
    obtain ⟨choice, hperforms⟩ := hdecided.performed
    exact ⟨n, choice, hperforms, hdecided.answer.followsLadder_iff⟩

-- A file polls the controller that another one has created.
def foreignPoll : List (Interleaving.Event Choice Stimulus) :=
  creation ⟨0, .xboxOne, 0⟩ 1 ++ .env (.start (.request (some 2) (.poll 0))) :: willingly 2 1

theorem error_ladder_foreignPoll :
    ∃ run : driver.Run (World.initial true), ∃ t n choice,
      run.last.threads[2]? = some t ∧ t.regs.status = .accessDenied ∧
        run.Performs n 2 choice (.slot ⟨0, by decide⟩ (.poll 2)) ∧
          FollowsLadder (.poll 0) 2 ((run.world n).shared.controllers ⟨0, by decide⟩).control
            t.regs.status := by
  let run : driver.Run (World.initial true) := ⟨foreignPoll, by decide +kernel⟩
  have hvhf : VhfPlain run 2 := by
    intro n choice id handle answers hperforms
    have hmem := List.mem_of_getElem? hperforms.event
    simp only [run, foreignPoll, creation, willingly, List.mem_append, List.mem_cons,
      List.mem_replicate, reduceCtorEq, false_or, Interleaving.Event.act.injEq] at hmem
    have hchoice : choice = .willing := by grind
    rw [hchoice]
    rfl
  obtain ⟨n, choice, hperforms, hladder⟩ :=
    error_ladder run 2 _ 2 (.poll 0) ⟨0, by decide⟩ (.slot ⟨0, by decide⟩ (.poll 2)) rfl rfl rfl rfl
      rfl hvhf
  refine ⟨run, _, n, choice, rfl, rfl, hperforms, hladder.2 ?_⟩
  rintro ⟨hinput, -⟩
  cases hinput

-- An input for a slot that nobody has created.
def emptyInput : List (Interleaving.Event Choice Stimulus) :=
  .env (.start (.request (some 1) (.input .zero))) :: willingly 0 3

theorem input_not_ready :
    ∃ run : driver.Run (World.initial true), ∃ t n choice,
      run.last.threads[0]? = some t ∧ t.kind = .request (some 1) (.input .zero) ∧ t.todo = [] ∧
        run.Performs n 0 choice (.slot ⟨0, by decide⟩ (.input 1 .zero)) ∧
          (run.world n).shared.stopping = false ∧
            ((run.world n).shared.controllers ⟨0, by decide⟩).control.state = .empty ∧
              ¬FollowsLadder (.input .zero) 1
                ((run.world n).shared.controllers ⟨0, by decide⟩).control t.regs.status := by
  refine ⟨⟨emptyInput, by decide +kernel⟩, _, 2, .willing, rfl, rfl, rfl, rfl, rfl, rfl, ?_⟩
  intro hladder
  cases hladder.notFound.2 rfl

end Runs

end LibVirtualGamepad
