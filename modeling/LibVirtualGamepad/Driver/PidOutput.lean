import LibVirtualGamepad.Driver.Section
import LibVirtualGamepad.PidFf.Pool

-- A host's force feedback reports as they reach the engine of a slot, and the rumble
-- events that the engine's state is published as.
namespace LibVirtualGamepad

def pidWord (bytes : List UInt8) (i : Nat) : UInt16 :=
  (bytes.getD i 0).toUInt16 ||| (bytes.getD (i + 1) 0).toUInt16 <<< 8

-- The packed layouts.
def PidCreateNewEffectReport.ofBytes (bytes : List UInt8) : PidCreateNewEffectReport where
  effectType := bytes.getD 1 0
  byteCount := pidWord bytes 2

def PidSetEffectReport.ofBytes (bytes : List UInt8) : PidSetEffectReport where
  effectBlockIndex := bytes.getD 1 0
  effectType := bytes.getD 2 0
  durationMs := pidWord bytes 3
  gain := bytes.getD 9 0
  startDelayMs := pidWord bytes 14

def PidSetEnvelopeReport.ofBytes (bytes : List UInt8) : PidSetEnvelopeReport where
  effectBlockIndex := bytes.getD 1 0
  attackLevel := pidWord bytes 2
  fadeLevel := pidWord bytes 4
  attackTimeMs := pidWord bytes 6
  fadeTimeMs := pidWord bytes 8

def PidSetConditionReport.ofBytes (bytes : List UInt8) : PidSetConditionReport where
  effectBlockIndex := bytes.getD 1 0

def PidSetPeriodicReport.ofBytes (bytes : List UInt8) : PidSetPeriodicReport where
  effectBlockIndex := bytes.getD 1 0
  magnitude := pidWord bytes 2

def PidSetConstantForceReport.ofBytes (bytes : List UInt8) : PidSetConstantForceReport where
  effectBlockIndex := bytes.getD 1 0
  magnitude := (pidWord bytes 2).toInt16

def PidSetRampForceReport.ofBytes (bytes : List UInt8) : PidSetRampForceReport where
  effectBlockIndex := bytes.getD 1 0
  rampStart := (pidWord bytes 2).toInt16
  rampEnd := (pidWord bytes 4).toInt16

def PidEffectOperationReport.ofBytes (bytes : List UInt8) : PidEffectOperationReport where
  effectBlockIndex := bytes.getD 1 0
  operation := bytes.getD 2 0
  loopCount := bytes.getD 3 0

def PidBlockFreeReport.ofBytes (bytes : List UInt8) : PidBlockFreeReport where
  effectBlockIndex := bytes.getD 1 0

def PidDeviceControlReport.ofBytes (bytes : List UInt8) : PidDeviceControlReport where
  control := bytes.getD 1 0

def PidDeviceGainReport.ofBytes (bytes : List UInt8) : PidDeviceGainReport where
  deviceGain := bytes.getD 1 0

-- `size` is that of the report's layout. A longer buffer is read as far as that.
def readPidReport (size : Nat) (transfer : Transfer) : Option (List UInt8) :=
  match transfer.buffer with
  | none => none
  | some bytes =>
    if bytes.length < size then none
    else if bytes.getD 0 0 = transfer.reportId then some bytes
    else none

def handlePid {α : Type} (size : Nat) (ofBytes : List UInt8 → α)
    (handler : PidEngine → α → Bool × PidEngine) (transfer : Transfer) (engine : PidEngine) :
    NtStatus × PidEngine :=
  match readPidReport size transfer with
  | none => (.invalidParameter, engine)
  | some bytes =>
    let (handled, engine) := handler engine (ofBytes bytes)
    (if handled then .success else .invalidParameter, engine)

def applyPidOutput (transfer : Transfer) (engine : PidEngine) : NtStatus × PidEngine :=
  if transfer.reportId = 0x11 then
    handlePid 16 PidSetEffectReport.ofBytes PidEngine.setEffect transfer engine
  else if transfer.reportId = 0x12 then
    handlePid 10 PidSetEnvelopeReport.ofBytes PidEngine.setEnvelope transfer engine
  else if transfer.reportId = 0x13 then
    handlePid 15 PidSetConditionReport.ofBytes PidEngine.setCondition transfer engine
  else if transfer.reportId = 0x14 then
    handlePid 10 PidSetPeriodicReport.ofBytes PidEngine.setPeriodic transfer engine
  else if transfer.reportId = 0x15 then
    handlePid 4 PidSetConstantForceReport.ofBytes PidEngine.setConstantForce transfer engine
  else if transfer.reportId = 0x16 then
    handlePid 6 PidSetRampForceReport.ofBytes PidEngine.setRampForce transfer engine
  else if transfer.reportId = 0x17 then
    handlePid 4 PidEffectOperationReport.ofBytes PidEngine.effectOperation transfer engine
  else if transfer.reportId = 0x18 then
    handlePid 2 PidBlockFreeReport.ofBytes PidEngine.blockFree transfer engine
  else if transfer.reportId = 0x19 then
    handlePid 2 PidDeviceControlReport.ofBytes PidEngine.deviceControl transfer engine
  else if transfer.reportId = 0x1A then
    handlePid 2 PidDeviceGainReport.ofBytes PidEngine.setDeviceGain transfer engine
  else
    (.invalidDeviceRequest, engine)

-- A slot's engine, and the rumble that was last published, if any was.
structure SlotPid where
  engine : PidEngine
  rumble : Option PidRumble

namespace SlotPid

def created : SlotPid := ⟨.reset, none⟩

-- The engine's rumble goes out when it changed. It carries no colour.
def publish (pid : SlotPid) (controllerId : UInt32) (data : SlotData) : SlotPid × SlotData :=
  let rumble := pid.engine.rumble
  if pid.rumble = some rumble then
    (pid, data)
  else
    ({ pid with rumble := some rumble },
      data.setFeedback (.make controllerId .genericRumble
        (GenericRumbleRgbFeedback.bytes ⟨rumble.lowFrequency, rumble.highFrequency, 0, 0, 0⟩)))

-- An output report of a slot with force feedback.
def write (s : Section) (transfer : Transfer) (pid : SlotPid) (data : SlotData) :
    NtStatus × SlotPid × SlotData :=
  if s.acceptsVhfCallbacks then
    let (status, engine) := applyPidOutput transfer pid.engine
    let pid := { pid with engine := engine }
    if status.ok then
      (status, pid.publish s.controllerId data)
    else
      (status, pid, data)
  else
    (.deviceNotReady, pid, data)

-- A full pool is a normal answer; the host learns of it from Block Load.
def setFeature (s : Section) (transfer : Transfer) (pid : SlotPid) : NtStatus × SlotPid :=
  match readPidReport 4 transfer with
  | none => (.invalidParameter, pid)
  | some bytes =>
    if s.acceptsVhfCallbacks then
      (.success,
        { pid with engine := (pid.engine.createNewEffect (.ofBytes bytes)).2 })
    else
      (.deviceNotReady, pid)

def tickMs : UInt32 := 10

-- A slot's part of the tick that all slots share.
def tick (s : Section) (pid : SlotPid) (data : SlotData) : SlotPid × SlotData :=
  if s.control.state = .active then
    { pid with engine := pid.engine.advance tickMs }.publish s.controllerId data
  else
    (pid, data)

end SlotPid

namespace Transfer

def byte (transfer : Transfer) (i : Nat) : UInt8 := (transfer.buffer.getD []).getD i 0

-- What a force feedback report is about, by its id and its bytes.
def NamesBlock (transfer : Transfer) (i : Fin pidMaxEffects) : Prop :=
  (0x11 ≤ transfer.reportId ∧ transfer.reportId ≤ 0x18) ∧
    PidEngine.effect (transfer.byte 1) = some i

def StopsOthers (transfer : Transfer) : Prop :=
  transfer.reportId = 0x17 ∧ transfer.byte 2 = 2 ∨ transfer.reportId = 0x19 ∧ transfer.byte 1 = 3

def Resets (transfer : Transfer) : Prop := transfer.reportId = 0x19 ∧ transfer.byte 1 = 4

instance (transfer : Transfer) : Decidable transfer.StopsOthers :=
  inferInstanceAs (Decidable (_ ∨ _))

instance (transfer : Transfer) : Decidable transfer.Resets := inferInstanceAs (Decidable (_ ∧ _))

end Transfer

-- What an accepted report leaves of an engine beside the block it names.
structure PidFrame (transfer : Transfer) (before after : PidEngine) : Prop where
  others : ∀ j, ¬transfer.NamesBlock j → after.block j =
    if transfer.Resets then .zero
    else if transfer.StopsOthers then (before.block j).stop
    else before.block j
  deviceGain : after.deviceGain =
    if transfer.Resets then 255
    else if transfer.reportId = 0x1A then transfer.byte 1
    else before.deviceGain
  paused : after.paused =
    if transfer.Resets then false
    else if transfer.reportId = 0x19 ∧ transfer.byte 1 = 5 then true
    else if transfer.reportId = 0x19 ∧ transfer.byte 1 = 6 then false
    else before.paused
  actuatorsEnabled : after.actuatorsEnabled =
    if transfer.Resets then true
    else if transfer.reportId = 0x19 ∧ transfer.byte 1 = 1 then true
    else if transfer.reportId = 0x19 ∧ transfer.byte 1 = 2 then false
    else before.actuatorsEnabled
  blockLoad : transfer.Resets ∨
    after.lastAllocated = before.lastAllocated ∧ after.lastLoadStatus = before.lastLoadStatus
  condition : transfer.reportId = 0x13 → after = before

-- A report is refused and changes nothing, or it is accepted within its frame.
structure PidSettled (transfer : Transfer) (engine : PidEngine) (result : NtStatus × PidEngine) :
    Prop where
  refused : result.1 ≠ .success → result.2 = engine
  accepted : result.1 = .success → PidFrame transfer engine result.2

namespace PidEngine

variable {engine : PidEngine} {blockIndex : UInt8} {f : Fin pidMaxEffects → Bool × PidEngine}

theorem withBlock_refused (hf : ∀ i, (f i).1 = false → (f i).2 = engine)
    (h : (engine.withBlock blockIndex f).1 = false) : (engine.withBlock blockIndex f).2 = engine := by
  obtain hrefused | ⟨i, -, -, heq⟩ := engine.withBlock_cases blockIndex f
  · rw [hrefused]
  · rw [heq] at h ⊢
    exact hf i h

theorem withBlock_accepted (h : (engine.withBlock blockIndex f).1 = true) :
    ∃ i, effect blockIndex = some i ∧ (f i).1 = true ∧ engine.withBlock blockIndex f = f i := by
  obtain hrefused | ⟨i, hi, -, heq⟩ := engine.withBlock_cases blockIndex f
  · rw [hrefused] at h
    cases h
  · rw [heq] at h
    exact ⟨i, hi, h, heq⟩

end PidEngine

section Frame

variable {transfer : Transfer} {engine : PidEngine}

theorem readPidReport_byte {size : Nat} {bytes : List UInt8}
    (h : readPidReport size transfer = some bytes) (i : Nat) :
    bytes.getD i 0 = transfer.byte i := by
  unfold readPidReport at h
  unfold Transfer.byte
  split at h
  · cases h
  · next bytes' hbuffer =>
    split at h
    · cases h
    · split at h
      · cases h
        rw [hbuffer, Option.getD_some]
      · cases h

theorem handlePid_settled {α : Type} {size : Nat} {ofBytes : List UInt8 → α}
    {handler : PidEngine → α → Bool × PidEngine}
    (hrefused : ∀ report, (handler engine report).1 = false → (handler engine report).2 = engine)
    (haccepted : ∀ bytes, (∀ i, bytes.getD i 0 = transfer.byte i) →
      (handler engine (ofBytes bytes)).1 = true →
        PidFrame transfer engine (handler engine (ofBytes bytes)).2) :
    PidSettled transfer engine (handlePid size ofBytes handler transfer engine) := by
  unfold handlePid
  cases hread : readPidReport size transfer with
  | none => exact ⟨fun _ => rfl, fun h => by cases h⟩
  | some bytes =>
    cases hhandled : (handler engine (ofBytes bytes)).1 with
    | true =>
      simp only [hhandled, ite_true]
      exact ⟨fun h => absurd rfl h, fun _ => haccepted bytes (readPidReport_byte hread) hhandled⟩
    | false =>
      simp only [hhandled, Bool.false_eq_true, ite_false]
      exact ⟨fun _ => hrefused _ hhandled, fun h => by cases h⟩

-- A report that changes the block it names, and nothing else.
theorem frame_update {i : Fin pidMaxEffects}
    (hid : 0x11 ≤ transfer.reportId ∧ transfer.reportId ≤ 0x18)
    (hother : ¬transfer.StopsOthers) (hcondition : transfer.reportId ≠ 0x13)
    (hi : PidEngine.effect (transfer.byte 1) = some i) (f : PidEffect → PidEffect) :
    PidFrame transfer engine (engine.update i f) := by
  have hne19 : transfer.reportId ≠ 0x19 := fun h => absurd (h ▸ hid.2) (by decide)
  have hne1A : transfer.reportId ≠ 0x1A := fun h => absurd (h ▸ hid.2) (by decide)
  have hreset : ¬transfer.Resets := fun h => hne19 h.1
  constructor
  case others =>
    intro j hj
    rw [if_neg hreset, if_neg hother]
    apply engine.update_other
    rintro rfl
    exact hj ⟨hid, hi⟩
  case condition => exact fun h => absurd h hcondition
  case blockLoad => exact .inr ⟨rfl, rfl⟩
  all_goals
    simp only [hreset, hne19, hne1A, false_and, ite_false]
    rfl

theorem block_settled {α : Type} {size : Nat} {ofBytes : List UInt8 → α} {index : α → UInt8}
    {change : α → PidEffect → PidEffect}
    (hid : 0x11 ≤ transfer.reportId ∧ transfer.reportId ≤ 0x18)
    (hother : ¬transfer.StopsOthers) (hcondition : transfer.reportId ≠ 0x13)
    (hindex : ∀ bytes, index (ofBytes bytes) = bytes.getD 1 0) :
    PidSettled transfer engine (handlePid size ofBytes
      (fun engine report => engine.withBlock (index report) fun i =>
        (true, engine.update i (change report))) transfer engine) := by
  apply handlePid_settled
  · intro report
    exact PidEngine.withBlock_refused fun _ h => by cases h
  · intro bytes hbytes haccepted
    obtain ⟨i, hi, -, heq⟩ := PidEngine.withBlock_accepted haccepted
    rw [hindex, hbytes] at hi
    rw [heq]
    exact frame_update hid hother hcondition hi _

theorem effectOperation_settled (hid : transfer.reportId = 0x17) :
    PidSettled transfer engine
      (handlePid 4 PidEffectOperationReport.ofBytes PidEngine.effectOperation transfer engine) := by
  have hrange : 0x11 ≤ transfer.reportId ∧ transfer.reportId ≤ 0x18 := by
    rw [hid]
    decide
  have hcondition : transfer.reportId ≠ 0x13 := by
    rw [hid]
    decide
  have hne19 : transfer.reportId ≠ 0x19 := by
    rw [hid]
    decide
  apply handlePid_settled
  · intro report
    apply PidEngine.withBlock_refused
    intro i h
    split at h
    · cases h
    · split at h
      · cases h
      · split at h
        · cases h
        · next h₂ h₁ h₃ => rw [if_neg h₂, if_neg h₁, if_neg h₃]
  · intro bytes hbytes haccepted
    obtain ⟨i, hi, hdone, heq⟩ := PidEngine.withBlock_accepted haccepted
    unfold PidEngine.effectOperation
    rw [heq]
    simp only [PidEffectOperationReport.ofBytes, hbytes] at hi hdone ⊢
    by_cases hsolo : transfer.byte 2 = 2
    · have hstops : transfer.StopsOthers := .inl ⟨hid, hsolo⟩
      have hreset : ¬transfer.Resets := fun h => hne19 h.1
      rw [if_pos hsolo]
      constructor
      case others =>
        intro j hj
        rw [if_neg hreset, if_pos hstops]
        have hne : j ≠ i := by
          rintro rfl
          exact hj ⟨hrange, hi⟩
        exact (engine.stopAll.update_other hne _).trans (engine.stopAll_effect j)
      case condition => exact fun h => absurd h hcondition
      case blockLoad => exact .inr ⟨rfl, rfl⟩
      all_goals
        simp only [hreset, hid, ite_false]
        rfl
    · have hother : ¬transfer.StopsOthers := by
        rintro (⟨-, h⟩ | ⟨h, -⟩)
        · exact hsolo h
        · exact hne19 h
      rw [if_neg hsolo] at hdone ⊢
      split
      · unfold PidEngine.start
        dsimp only
        exact frame_update hrange hother hcondition hi _
      · next hstart =>
        rw [if_neg hstart] at hdone
        split
        · exact frame_update hrange hother hcondition hi _
        · next hstop =>
          rw [if_neg hstop] at hdone
          cases hdone

theorem deviceControl_settled (hid : transfer.reportId = 0x19) :
    PidSettled transfer engine
      (handlePid 2 PidDeviceControlReport.ofBytes PidEngine.deviceControl transfer engine) := by
  have hnames (j : Fin pidMaxEffects) : ¬transfer.NamesBlock j := by
    rintro ⟨⟨-, h⟩, -⟩
    rw [hid] at h
    exact absurd h (by decide)
  apply handlePid_settled
  · intro report
    unfold PidEngine.deviceControl
    repeat' split
    all_goals
      intro h
      first
        | rfl
        | cases h
  · intro bytes hbytes haccepted
    unfold PidEngine.deviceControl at haccepted ⊢
    simp only [PidDeviceControlReport.ofBytes, hbytes] at haccepted ⊢
    -- One case per control, the frame of each by evaluation.
    repeat' split
    case isFalse h₁ h₂ h₃ h₄ h₅ h₆ =>
      simp only [h₁, h₂, h₃, h₄, h₅, h₆, ite_false, Bool.false_eq_true] at haccepted
    all_goals
      constructor <;>
        simp [Transfer.Resets, Transfer.StopsOthers, PidEngine.block, PidEngine.reset,
          PidEngine.stopAll, *]

theorem deviceGain_settled (hid : transfer.reportId = 0x1A) :
    PidSettled transfer engine
      (handlePid 2 PidDeviceGainReport.ofBytes PidEngine.setDeviceGain transfer engine) := by
  have hreset : ¬transfer.Resets := by
    rintro ⟨h, -⟩
    rw [hid] at h
    exact absurd h (by decide)
  have hstops : ¬transfer.StopsOthers := by
    rintro (⟨h, -⟩ | ⟨h, -⟩) <;> rw [hid] at h <;> exact absurd h (by decide)
  apply handlePid_settled
  · intro report h
    cases h
  · intro bytes hbytes _
    constructor
    case others =>
      intro j _
      rw [if_neg hreset, if_neg hstops]
      rfl
    case deviceGain =>
      rw [if_neg hreset, if_pos hid]
      exact hbytes 1
    case blockLoad => exact .inr ⟨rfl, rfl⟩
    case condition =>
      intro h
      rw [hid] at h
      exact absurd h (by decide)
    all_goals
      simp only [hreset, hid, ite_false]
      rfl

theorem condition_settled (hid : transfer.reportId = 0x13) :
    PidSettled transfer engine
      (handlePid 15 PidSetConditionReport.ofBytes PidEngine.setCondition transfer engine) := by
  have hreset : ¬transfer.Resets := by
    rintro ⟨h, -⟩
    rw [hid] at h
    exact absurd h (by decide)
  have hstops : ¬transfer.StopsOthers := by
    rintro (⟨h, -⟩ | ⟨h, -⟩) <;> rw [hid] at h <;> exact absurd h (by decide)
  have hsame (report : PidSetConditionReport) : (engine.setCondition report).2 = engine := by
    unfold PidEngine.setCondition
    obtain hrefused | ⟨i, -, -, heq⟩ := engine.withBlock_cases report.effectBlockIndex
      fun _ => (true, engine)
    · rw [hrefused]
    · rw [heq]
  apply handlePid_settled
  · exact fun report _ => hsame report
  · intro bytes hbytes _
    rw [hsame]
    constructor
    case others =>
      intro j _
      rw [if_neg hreset, if_neg hstops]
    case blockLoad => exact .inr ⟨rfl, rfl⟩
    case condition => exact fun _ => rfl
    all_goals
      simp only [hreset, hid, ite_false]
      rfl

end Frame

-- Every report buffer, whatever its id, its length and its bytes.
theorem applyPidOutput_settled (transfer : Transfer) (engine : PidEngine) :
    PidSettled transfer engine (applyPidOutput transfer engine) := by
  -- The reports that fill in a block.
  have hfill {α : Type} {size : Nat} {ofBytes : List UInt8 → α} {index : α → UInt8}
      {change : α → PidEffect → PidEffect}
      (hid : transfer.reportId ∈ [0x11, 0x12, 0x14, 0x15, 0x16, 0x18])
      (hindex : ∀ bytes, index (ofBytes bytes) = bytes.getD 1 0) :
      PidSettled transfer engine (handlePid size ofBytes
        (fun engine report => engine.withBlock (index report) fun i =>
          (true, engine.update i (change report))) transfer engine) := by
    have hall : ∀ id ∈ ([0x11, 0x12, 0x14, 0x15, 0x16, 0x18] : List UInt8),
        (0x11 ≤ id ∧ id ≤ 0x18) ∧ id ≠ 0x17 ∧ id ≠ 0x19 ∧ id ≠ 0x13 :=
      forall_mem_of_all (by decide)
    obtain ⟨hrange, h17, h19, h13⟩ := hall _ hid
    apply block_settled hrange _ h13 hindex
    rintro (⟨h, -⟩ | ⟨h, -⟩)
    · exact h17 h
    · exact h19 h
  unfold applyPidOutput
  split
  · next hid => exact hfill (by rw [hid]; decide) fun _ => rfl
  split
  · next hid => exact hfill (by rw [hid]; decide) fun _ => rfl
  split
  · next hid => exact condition_settled hid
  split
  · next hid => exact hfill (by rw [hid]; decide) fun _ => rfl
  split
  · next hid => exact hfill (by rw [hid]; decide) fun _ => rfl
  split
  · next hid => exact hfill (by rw [hid]; decide) fun _ => rfl
  split
  · next hid => exact effectOperation_settled hid
  split
  · next hid => exact hfill (by rw [hid]; decide) fun _ => rfl
  split
  · next hid => exact deviceControl_settled hid
  split
  · next hid => exact deviceGain_settled hid
  exact ⟨fun _ => rfl, fun h => by cases h⟩

end LibVirtualGamepad
