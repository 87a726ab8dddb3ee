import LibVirtualGamepad.Driver.Section

-- What the output reports of a host come to for the owner of a PlayStation pad: each
-- group of fields is the one that was written last.
namespace LibVirtualGamepad

open Section

namespace Playstation

-- The fields that a report enables and replaces together.
inductive OutputGroup where
  | rumble
  | lightbar
  | playerLeds
  | microphone
  | leftTrigger
  | rightTrigger
  deriving DecidableEq

-- The groups that a report enables, with the bytes it gives them.
abbrev GroupWrites := OutputGroup → Option (List UInt8)

def ds4Writes (bytes : List UInt8) : GroupWrites
  | .rumble =>
    if bytes.getD 1 0 &&& 0x01 ≠ 0 then some [0, bytes.getD 5 0, 0, bytes.getD 4 0] else none
  | .lightbar =>
    if bytes.getD 1 0 &&& 0x02 ≠ 0 then some [bytes.getD 6 0, bytes.getD 7 0, bytes.getD 8 0]
    else none
  | _ => none

-- The mode and the ten parameters of a trigger's program.
def triggerBytes (bytes : List UInt8) (start : Nat) : List UInt8 :=
  bytes.getD start 0 :: (List.range 10).map fun i => bytes.getD (start + 1 + i) 0

-- Rumble is enabled by the legacy flag or by vibration-v2.
def ds5Writes (bytes : List UInt8) : GroupWrites
  | .rumble =>
    if bytes.getD 1 0 &&& 0x01 ≠ 0 ∨ bytes.getD 39 0 &&& 0x04 ≠ 0 then
      some [0, bytes.getD 4 0, 0, bytes.getD 3 0] else none
  | .lightbar =>
    if bytes.getD 2 0 &&& 0x04 ≠ 0 then some [bytes.getD 45 0, bytes.getD 46 0, bytes.getD 47 0]
    else none
  | .playerLeds => if bytes.getD 2 0 &&& 0x10 ≠ 0 then some [bytes.getD 44 0] else none
  | .microphone => if bytes.getD 2 0 &&& 0x01 ≠ 0 then some [bytes.getD 9 0] else none
  | .leftTrigger => if bytes.getD 1 0 &&& 0x08 ≠ 0 then some (triggerBytes bytes 22) else none
  | .rightTrigger => if bytes.getD 1 0 &&& 0x04 ≠ 0 then some (triggerBytes bytes 11) else none

-- The groups an acceptable report writes; none for a malformed one. In the Bluetooth
-- form the fields stand two bytes further back.
def outputWrites (profile : Profile) (bytes : List UInt8) : Option GroupWrites :=
  if profile = .dualshock4 then
    if bytes.headD 0 = 0x05 ∧ 32 ≤ bytes.length then some (ds4Writes bytes) else none
  else if bytes.headD 0 = 0x02 ∧ 48 ≤ bytes.length then
    some (ds5Writes bytes)
  else if bytes.headD 0 = 0x31 ∧ 50 ≤ bytes.length then
    some (ds5Writes (0x02 :: bytes.drop 3))
  else
    none

end Playstation

open Playstation

namespace PlaystationOutputFeedback

def group (feedback : PlaystationOutputFeedback) : OutputGroup → List UInt8
  | .rumble => le16 feedback.lowFrequency ++ le16 feedback.highFrequency
  | .lightbar => [feedback.red, feedback.green, feedback.blue]
  | .playerLeds => [feedback.playerLeds]
  | .microphone => [feedback.microphoneLed]
  | .leftTrigger => feedback.leftTrigger.mode :: feedback.leftTrigger.parameters.toList
  | .rightTrigger => feedback.rightTrigger.mode :: feedback.rightTrigger.parameters.toList

-- The groups are replaced as the report says, and the valid bits follow them.
structure Merged (writes : GroupWrites) (old new : PlaystationOutputFeedback) : Prop where
  groups : ∀ group, new.group group = (writes group).getD (old.group group)
  lightbar : new.valid &&& psOutputLightbarValid ≠ 0 ↔
    old.valid &&& psOutputLightbarValid ≠ 0 ∨ (writes .lightbar).isSome
  playerLeds : new.valid &&& psOutputPlayerLedsValid ≠ 0 ↔
    old.valid &&& psOutputPlayerLedsValid ≠ 0 ∨ (writes .playerLeds).isSome
  microphone : new.valid &&& psOutputMicrophoneLedValid ≠ 0 ↔
    old.valid &&& psOutputMicrophoneLedValid ≠ 0 ∨ (writes .microphone).isSome
  triggers : new.valid &&& psOutputTriggersValid ≠ 0 ↔
    old.valid &&& psOutputTriggersValid ≠ 0 ∨ (writes .leftTrigger).isSome ∨
      (writes .rightTrigger).isSome
  unused : new.valid &&& 0xF0 = old.valid &&& 0xF0

end PlaystationOutputFeedback

section Merge

open PlaystationOutputFeedback

theorem widened (motor : UInt8) : le16 (motor.toUInt16 <<< 8) = [0, motor] := by
  have hlt := motor.toNat_lt
  have hwide : (motor.toUInt16 <<< 8).toNat = motor.toNat * 256 := by
    rw [UInt16.toNat_shiftLeft, UInt8.toNat_toUInt16, Nat.shiftLeft_eq]
    exact Nat.mod_eq_of_lt (by simp; omega)
  have hlow : (motor.toUInt16 <<< 8).toUInt8 = 0 := by
    rw [← UInt8.toNat_inj, UInt16.toNat_toUInt8, hwide]
    simp
  have hhigh : ((motor.toUInt16 <<< 8) >>> 8).toUInt8 = motor := by
    rw [← UInt8.toNat_inj, UInt16.toNat_toUInt8, UInt16.toNat_shiftRight, hwide,
      Nat.shiftRight_eq_div_pow]
    simp
  rw [le16, hlow, hhigh]

theorem or_and_ne_zero (a b mask : UInt8) :
    (a ||| b) &&& mask ≠ 0 ↔ a &&& mask ≠ 0 ∨ b &&& mask ≠ 0 := by
  have hdistrib : (a ||| b) &&& mask = (a &&& mask) ||| (b &&& mask) :=
    UInt8.toBitVec_inj.1 BitVec.and_or_distrib_right
  rw [hdistrib, ne_eq, UInt8.or_eq_zero_iff, not_and_or]

theorem or_and_of_disjoint (a b mask : UInt8) (h : b &&& mask = 0) :
    (a ||| b) &&& mask = a &&& mask := by
  have hdistrib : (a ||| b) &&& mask = (a &&& mask) ||| (b &&& mask) :=
    UInt8.toBitVec_inj.1 BitVec.and_or_distrib_right
  rw [hdistrib, h, UInt8.or_zero]

-- The bits that a list of (enabled, bit) pairs adds.
theorem ite_or_and_ne_zero (enabled : Prop) [Decidable enabled] (old bit mask : UInt8) :
    (if enabled then old ||| bit else old) &&& mask ≠ 0 ↔
      old &&& mask ≠ 0 ∨ enabled ∧ bit &&& mask ≠ 0 := by
  by_cases h : enabled
  · simp only [h, if_true, true_and, or_and_ne_zero]
  · simp only [h, if_false, false_and, or_false]

theorem ite_or_and_of_disjoint (enabled : Prop) [Decidable enabled] (old bit mask : UInt8)
    (h : bit &&& mask = 0) : (if enabled then old ||| bit else old) &&& mask = old &&& mask := by
  split
  · exact or_and_of_disjoint old bit mask h
  · rfl

section Enabled

variable {α : Type*} (enabled : Prop) [Decidable enabled]

theorem enabled_getD₁ (new old : α) :
    [if enabled then new else old] = (if enabled then some [new] else none).getD [old] := by
  split <;> rfl

theorem enabled_getD₂ (new new' old old' : List α) :
    (if enabled then new else old) ++ (if enabled then new' else old') =
      (if enabled then some (new ++ new') else none).getD (old ++ old') := by
  split <;> rfl

theorem enabled_getD₃ (a b c a' b' c' : α) :
    [if enabled then a else a', if enabled then b else b', if enabled then c else c'] =
      (if enabled then some [a, b, c] else none).getD [a', b', c'] := by
  split <;> rfl

theorem enabled_getD_trigger (new old : TriggerEffectFeedback) :
    (if enabled then new else old).mode :: (if enabled then new else old).parameters.toList =
      (if enabled then some (new.mode :: new.parameters.toList) else none).getD
        (old.mode :: old.parameters.toList) := by
  split <;> rfl

end Enabled

theorem ds4_merged (bytes : List UInt8) (feedback : PlaystationOutputFeedback)
    (hid : bytes.getD 0 0 = DualShock4.outputReportId) :
    ∃ new, DualShock4.applyDs4Output (.ofBytes bytes) feedback = (true, new) ∧
      Merged (ds4Writes bytes) feedback new := by
  have hreport : ¬(DualShock4.Ds4OutputReport.ofBytes bytes).reportId ≠ DualShock4.outputReportId :=
    not_not.mpr hid
  refine ⟨(DualShock4.applyDs4Output (.ofBytes bytes) feedback).2, ?_, ?_⟩
  · simp only [DualShock4.applyDs4Output, if_neg hreport]
  simp only [DualShock4.applyDs4Output, if_neg hreport]
  refine ⟨fun group => ?_, ?_, ?_, ?_, ?_, ?_⟩
  · cases group with
    | rumble =>
        simp only [group, ds4Writes, apply_ite PlaystationOutputFeedback.lowFrequency,
          apply_ite PlaystationOutputFeedback.highFrequency, ite_self, apply_ite le16, widened]
        exact enabled_getD₂ _ _ _ _ _
    | lightbar =>
        simp only [group, ds4Writes, apply_ite PlaystationOutputFeedback.red,
          apply_ite PlaystationOutputFeedback.green, apply_ite PlaystationOutputFeedback.blue,
          ite_self]
        exact enabled_getD₃ _ _ _ _ _ _ _
    | playerLeds =>
        simp only [group, ds4Writes, apply_ite PlaystationOutputFeedback.playerLeds, ite_self,
          Option.getD_none]
    | microphone =>
        simp only [group, ds4Writes, apply_ite PlaystationOutputFeedback.microphoneLed, ite_self,
          Option.getD_none]
    | leftTrigger =>
        simp only [group, ds4Writes, apply_ite PlaystationOutputFeedback.leftTrigger, ite_self,
          Option.getD_none]
    | rightTrigger =>
        simp only [group, ds4Writes, apply_ite PlaystationOutputFeedback.rightTrigger, ite_self,
          Option.getD_none]
  · simp only [apply_ite PlaystationOutputFeedback.valid, ite_self, ite_or_and_ne_zero, ds4Writes,
      Option.isSome_ite]
    exact or_congr_right (and_iff_left (by decide))
  · simp only [apply_ite PlaystationOutputFeedback.valid, ite_self, ds4Writes]
    rw [ite_or_and_of_disjoint _ _ _ _ (by decide)]
    simp
  · simp only [apply_ite PlaystationOutputFeedback.valid, ite_self, ds4Writes]
    rw [ite_or_and_of_disjoint _ _ _ _ (by decide)]
    simp
  · simp only [apply_ite PlaystationOutputFeedback.valid, ite_self, ds4Writes]
    rw [ite_or_and_of_disjoint _ _ _ _ (by decide)]
    simp
  · simp only [apply_ite PlaystationOutputFeedback.valid, ite_self]
    exact ite_or_and_of_disjoint _ _ _ _ (by decide)

theorem trigger_group (bytes : List UInt8) (start : Nat) :
    bytes.getD start 0 :: (Vector.ofFn fun i : Fin 10 => bytes.getD (start + 1 + i) 0).toList =
      triggerBytes bytes start := by
  simp [triggerBytes, List.range_succ, Vector.toList_ofFn, List.ofFn_succ]

theorem ds5_merged (bytes : List UInt8) (feedback : PlaystationOutputFeedback)
    (hid : bytes.getD 0 0 = DualSense.outputReportId) :
    ∃ new, DualSense.applyDs5Output (.ofBytes bytes) feedback = (true, new) ∧
      Merged (ds5Writes bytes) feedback new := by
  have hreport : ¬(DualSense.Ds5OutputReport.ofBytes bytes).reportId ≠ DualSense.outputReportId :=
    not_not.mpr hid
  refine ⟨(DualSense.applyDs5Output (.ofBytes bytes) feedback).2, ?_, ?_⟩
  · simp only [DualSense.applyDs5Output, if_neg hreport]
  simp only [DualSense.applyDs5Output, if_neg hreport]
  refine ⟨fun group => ?_, ?_, ?_, ?_, ?_, ?_⟩
  · cases group with
    | rumble =>
        simp only [group, ds5Writes, apply_ite PlaystationOutputFeedback.lowFrequency,
          apply_ite PlaystationOutputFeedback.highFrequency, ite_self, apply_ite le16, widened]
        exact enabled_getD₂ _ _ _ _ _
    | lightbar =>
        simp only [group, ds5Writes, apply_ite PlaystationOutputFeedback.red,
          apply_ite PlaystationOutputFeedback.green, apply_ite PlaystationOutputFeedback.blue,
          ite_self]
        exact enabled_getD₃ _ _ _ _ _ _ _
    | playerLeds =>
        simp only [group, ds5Writes, apply_ite PlaystationOutputFeedback.playerLeds, ite_self]
        exact enabled_getD₁ _ _ _
    | microphone =>
        simp only [group, ds5Writes, apply_ite PlaystationOutputFeedback.microphoneLed, ite_self]
        exact enabled_getD₁ _ _ _
    | leftTrigger =>
        simp only [group, ds5Writes, apply_ite PlaystationOutputFeedback.leftTrigger, ite_self,
          ← trigger_group]
        exact enabled_getD_trigger _ _ _
    | rightTrigger =>
        simp only [group, ds5Writes, apply_ite PlaystationOutputFeedback.rightTrigger, ite_self,
          ← trigger_group]
        exact enabled_getD_trigger _ _ _
  · simp +decide only [apply_ite PlaystationOutputFeedback.valid, ite_self, ite_or_and_ne_zero,
      ds5Writes, Option.isSome_ite, and_true, and_false, or_false]
    exact Iff.rfl
  · simp +decide only [apply_ite PlaystationOutputFeedback.valid, ite_self, ite_or_and_ne_zero,
      ds5Writes, Option.isSome_ite, and_true, and_false, or_false]
    exact Iff.rfl
  · simp +decide only [apply_ite PlaystationOutputFeedback.valid, ite_self, ite_or_and_ne_zero,
      ds5Writes, Option.isSome_ite, and_true, and_false, or_false]
    exact Iff.rfl
  · simp +decide only [apply_ite PlaystationOutputFeedback.valid, ite_self, ite_or_and_ne_zero,
      ds5Writes, Option.isSome_ite, and_true, and_false, or_false, or_assoc]
    exact Iff.rfl
  · have hbits : psOutputLightbarValid &&& 0xF0 = 0 ∧ psOutputPlayerLedsValid &&& 0xF0 = 0 ∧
        psOutputMicrophoneLedValid &&& 0xF0 = 0 ∧ psOutputTriggersValid &&& 0xF0 = 0 := by decide
    obtain ⟨hlightbar, hplayer, hmicrophone, htriggers⟩ := hbits
    simp only [apply_ite PlaystationOutputFeedback.valid, ite_self]
    rw [ite_or_and_of_disjoint _ _ _ _ htriggers, ite_or_and_of_disjoint _ _ _ _ htriggers,
      ite_or_and_of_disjoint _ _ _ _ hmicrophone, ite_or_and_of_disjoint _ _ _ _ hplayer,
      ite_or_and_of_disjoint _ _ _ _ hlightbar]

end Merge

-- A report is decoded into a merge of what it writes, or refused as a whole.
theorem decodePlaystationOutput_writes (transfer : Transfer) (data : SlotData) :
    match outputWrites data.selectedProfile (transfer.buffer.getD []) with
    | none => (decodePlaystationOutput transfer data).1 = false
    | some writes => ∃ new, decodePlaystationOutput transfer data = (true, new) ∧
        data.playstationFeedback.Merged writes new := by
  have hhead : ∀ bytes : List UInt8, bytes.headD 0 = bytes.getD 0 0 := by
    intro bytes
    cases bytes <;> rfl
  unfold decodePlaystationOutput outputWrites
  dsimp only
  generalize transfer.buffer.getD [] = bytes
  by_cases hds4 : data.selectedProfile = .dualshock4
  · rw [if_pos hds4, if_pos hds4]
    by_cases hlength : bytes.length < DualShock4.outputReportBytes
    · have hshort : ¬(bytes.headD 0 = 0x05 ∧ 32 ≤ bytes.length) :=
        fun h => absurd h.2 (Nat.not_le.mpr hlength)
      rw [if_neg hshort, if_pos hlength]
    · rw [if_neg hlength]
      by_cases hid : bytes.headD 0 = 0x05
      · rw [if_pos ⟨hid, Nat.le_of_not_lt hlength⟩]
        exact ds4_merged bytes _ ((hhead bytes).symm.trans hid)
      · rw [if_neg fun h => hid h.1]
        have hreport : (DualShock4.Ds4OutputReport.ofBytes bytes).reportId ≠
            DualShock4.outputReportId := fun h => hid ((hhead bytes).trans h)
        simp only [DualShock4.applyDs4Output, if_pos hreport]
  · rw [if_neg hds4, if_neg hds4]
    by_cases husb : bytes.headD 0 = 0x02 ∧ 48 ≤ bytes.length
    · have husb' : bytes.headD 0 = DualSense.outputReportId ∧
          DualSense.outputReportBytes ≤ bytes.length := husb
      rw [if_pos husb, if_pos husb']
      exact ds5_merged bytes _ ((hhead bytes).symm.trans husb.1)
    · have husb' : ¬(bytes.headD 0 = DualSense.outputReportId ∧
          DualSense.outputReportBytes ≤ bytes.length) := husb
      rw [if_neg husb, if_neg husb']
      by_cases hbt : bytes.headD 0 = 0x31 ∧ 50 ≤ bytes.length
      · have hbt' : bytes.headD 0 = DualSense.outputReportIdBt ∧
            3 + DualSense.outputReportBytes - 1 ≤ bytes.length := hbt
        rw [if_pos hbt, if_pos hbt']
        exact ds5_merged _ _ rfl
      · have hbt' : ¬(bytes.headD 0 = DualSense.outputReportIdBt ∧
            3 + DualSense.outputReportBytes - 1 ≤ bytes.length) := hbt
        rw [if_neg hbt, if_neg hbt']

-- A host writes, the owner polls; each finds the slot as its section says.
inductive OutputOp where
  | write (s : Section) (transfer : Transfer)
  | poll (s : Section) (owner : File)

-- What an operation writes, when it is accepted.
def OutputOp.writes (profile : Profile) : OutputOp → Option GroupWrites
  | .write s transfer =>
    if s.acceptsVhfCallbacks then outputWrites profile (transfer.buffer.getD []) else none
  | .poll .. => none

-- A poll of the owner of an active slot.
def OutputOp.polls : OutputOp → Bool
  | .write .. => false
  | .poll s owner => s.control.state == .active && s.control.isOwnedBy owner

-- The slot with the events that its owner has polled.
structure OutputRun where
  data : SlotData
  polled : List FeedbackEvent

namespace OutputRun

def step (run : OutputRun) : OutputOp → OutputRun
  | .write s transfer => { run with data := (s.write transfer run.data).data }
  | .poll s owner =>
    { data := (s.poll owner run.data).data
      polled := run.polled ++ match (s.poll owner run.data).output with
        | some (.event event) => [event]
        | _ => [] }

def runFrom (run : OutputRun) (ops : List OutputOp) : OutputRun := ops.foldl step run

def start (controllerId : UInt32) (profile : Profile) : OutputRun := ⟨.created controllerId profile, []⟩

end OutputRun

-- What the accepted writes come to: for each group the last that enabled it.
structure Retained (writes : List GroupWrites) (feedback : PlaystationOutputFeedback) : Prop where
  groups : ∀ group, feedback.group group =
    ((writes.filterMap fun write => write group).getLast?).getD
      (PlaystationOutputFeedback.zero.group group)
  lightbar : feedback.valid &&& psOutputLightbarValid ≠ 0 ↔
    ∃ write ∈ writes, (write .lightbar).isSome
  playerLeds : feedback.valid &&& psOutputPlayerLedsValid ≠ 0 ↔
    ∃ write ∈ writes, (write .playerLeds).isSome
  microphone : feedback.valid &&& psOutputMicrophoneLedValid ≠ 0 ↔
    ∃ write ∈ writes, (write .microphone).isSome
  triggers : feedback.valid &&& psOutputTriggersValid ≠ 0 ↔
    ∃ write ∈ writes, (write .leftTrigger).isSome ∨ (write .rightTrigger).isSome
  unused : feedback.valid &&& 0xF0 = 0

namespace Retained

theorem zero : Retained [] .zero := by
  refine ⟨fun group => rfl, ?_, ?_, ?_, ?_, by decide⟩
  all_goals simp [PlaystationOutputFeedback.zero]

theorem merge {writes : List GroupWrites} {old new : PlaystationOutputFeedback}
    {write : GroupWrites} (h : Retained writes old) (hmerged : old.Merged write new) :
    Retained (writes ++ [write]) new := by
  have hexists : ∀ p : GroupWrites → Prop,
      (∃ w ∈ writes ++ [write], p w) ↔ (∃ w ∈ writes, p w) ∨ p write := by
    intro p
    simp only [List.mem_append, List.mem_singleton, or_and_right, exists_or, exists_eq_left]
  refine ⟨fun group => ?_, ?_, ?_, ?_, ?_, ?_⟩
  · rw [hmerged.groups, List.filterMap_append]
    cases hwrite : write group with
    | none => simp [hwrite, h.groups]
    | some bytes => simp [hwrite]
  · rw [hmerged.lightbar, hexists, h.lightbar]
  · rw [hmerged.playerLeds, hexists, h.playerLeds]
  · rw [hmerged.microphone, hexists, h.microphone]
  · rw [hmerged.triggers, hexists, h.triggers]
  · rw [hmerged.unused, h.unused]

end Retained

-- A pad's slot has no events but the retained one.
structure PadSlot (profile : Profile) (data : SlotData) : Prop where
  profile : data.selectedProfile = profile
  settings : data.feedback.settings.cursor.count = 0
  haptics : data.feedback.haptics.cursor.count = 0

namespace OutputRun

variable {profile : Profile} {run : OutputRun}

-- A refused report changes nothing; an accepted one is merged and waits for a poll.
theorem step_write (hprofile : profile.isPlaystation = true) (hslot : PadSlot profile run.data)
    (s : Section) (transfer : Transfer) :
    match (OutputOp.write s transfer).writes profile with
    | none => run.step (.write s transfer) = run ∧
        (s.write transfer run.data).status ≠ some .success
    | some writes => ∃ new, run.data.playstationFeedback.Merged writes new ∧
        run.step (.write s transfer) = { run with
          data := { run.data with playstationFeedback := new }.setFeedback
            (encodePlaystationFeedback s.controllerId new) } ∧
        (s.write transfer run.data).status = some .success := by
  have hswitch : (profile == .switchPro) = false := by
    cases profile <;> simp_all [Profile.isPlaystation]
  have hsteam : profile.isSteamController = false := by
    cases profile <;> simp_all [Profile.isPlaystation, Profile.isSteamController]
  have hwrite : s.write transfer run.data =
      if s.acceptsVhfCallbacks then s.writePlaystation transfer run.data
      else { data := run.data, status := some .deviceNotReady } := by
    simp only [Section.write, hslot.profile, hprofile, hswitch, hsteam, Bool.or_true, Bool.true_or,
      Bool.not_true, Bool.false_eq_true, if_false, if_true, Bool.not_eq_true', Bool.false_or]
    cases s.acceptsVhfCallbacks <;> rfl
  simp only [step, hwrite, OutputOp.writes]
  cases haccepts : s.acceptsVhfCallbacks with
  | false => simp
  | true =>
      have hdecode := decodePlaystationOutput_writes transfer run.data
      rw [hslot.profile] at hdecode
      simp only [if_true]
      cases hwrites : outputWrites profile (transfer.buffer.getD []) with
      | none =>
          rw [hwrites] at hdecode
          have hrefused : s.writePlaystation transfer run.data =
              { data := run.data, status := some .invalidParameter } := by
            unfold writePlaystation
            rcases hresult : decodePlaystationOutput transfer run.data with ⟨accepted, new⟩
            rw [hresult] at hdecode
            simp only at hdecode
            subst hdecode
            rfl
          simp [hrefused]
      | some writes =>
          rw [hwrites] at hdecode
          obtain ⟨new, hresult, hmerged⟩ := hdecode
          have haccepted : s.writePlaystation transfer run.data =
              { data := { run.data with playstationFeedback := new }.setFeedback
                  (encodePlaystationFeedback s.controllerId new)
                status := some .success } := by
            simp only [writePlaystation, hresult]
          refine ⟨new, hmerged, ?_, ?_⟩ <;> rw [haccepted]

-- A poll takes the retained event, if it waits.
theorem step_poll (hslot : PadSlot profile run.data) (s : Section) (owner : File) :
    run.step (.poll s owner) =
      if (OutputOp.poll s owner).polls && run.data.feedback.feedbackPending then
        { data := { run.data with feedback := { run.data.feedback with feedbackPending := false } }
          polled := run.polled ++ [run.data.feedback.feedback] }
      else run := by
  cases hpolls : (OutputOp.poll s owner).polls with
  | false =>
      have hrefused : (s.poll owner run.data).data = run.data ∧ (s.poll owner run.data).output = none := by
        unfold Section.poll
        split
        · exact ⟨rfl, rfl⟩
        · split
          · exact ⟨rfl, rfl⟩
          · split
            · exact ⟨rfl, rfl⟩
            · simp_all [OutputOp.polls]
      simp only [step, hrefused, List.append_nil, Bool.false_and, Bool.false_eq_true, if_false]
  | true =>
      simp only [OutputOp.polls, Bool.and_eq_true, beq_iff_eq] at hpolls
      obtain ⟨hactive, howned⟩ := hpolls
      have hrings : run.data.feedback.settings.poll = none ∧ run.data.feedback.haptics.poll = none :=
        ⟨if_pos hslot.settings, if_pos hslot.haptics⟩
      simp only [step, Section.poll, hactive, howned, SlotFeedback.poll, hrings, Bool.true_and]
      cases hpending : run.data.feedback.feedbackPending with
      | false => simp
      | true => simp

theorem padSlot_step (hprofile : profile.isPlaystation = true) (hslot : PadSlot profile run.data)
    (op : OutputOp) : PadSlot profile (run.step op).data := by
  cases op with
  | write s transfer =>
      have hstep := step_write hprofile hslot s transfer
      cases hwrites : (OutputOp.write s transfer).writes profile with
      | none =>
          rw [hwrites] at hstep
          rw [hstep.1]
          exact hslot
      | some writes =>
          rw [hwrites] at hstep
          obtain ⟨new, -, hafter, -⟩ := hstep
          rw [hafter]
          exact ⟨hslot.profile, hslot.settings, hslot.haptics⟩
  | poll s owner =>
      rw [step_poll hslot]
      split
      · exact ⟨hslot.profile, hslot.settings, hslot.haptics⟩
      · exact hslot

theorem padSlot_runFrom (hprofile : profile.isPlaystation = true)
    (hslot : PadSlot profile run.data) (ops : List OutputOp) :
    PadSlot profile (run.runFrom ops).data := by
  induction ops generalizing run with
  | nil => exact hslot
  | cons op rest ih => exact ih (padSlot_step hprofile hslot op)

theorem retained_runFrom (hprofile : profile.isPlaystation = true)
    (hslot : PadSlot profile run.data) {before : List GroupWrites}
    (h : Retained before run.data.playstationFeedback) (ops : List OutputOp) :
    Retained (before ++ ops.filterMap (OutputOp.writes profile))
      (run.runFrom ops).data.playstationFeedback := by
  induction ops generalizing run before with
  | nil =>
      rw [List.filterMap_nil, List.append_nil]
      exact h
  | cons op rest ih =>
      have hnext := padSlot_step hprofile hslot op
      have hkept : op.writes profile = none → Retained before (run.step op).data.playstationFeedback := by
        intro hnone
        cases op with
        | write s transfer =>
            have hstep := step_write hprofile hslot s transfer
            rw [hnone] at hstep
            rw [hstep.1]
            exact h
        | poll s owner =>
            rw [step_poll hslot]
            split <;> exact h
      cases hwrites : op.writes profile with
      | none =>
          rw [List.filterMap_cons_none hwrites]
          exact ih hnext (hkept hwrites)
      | some writes =>
          rw [List.filterMap_cons_some hwrites, List.append_cons]
          refine ih hnext ?_
          cases op with
          | write s transfer =>
              have hstep := step_write hprofile hslot s transfer
              rw [hwrites] at hstep
              obtain ⟨new, hmerged, hafter, -⟩ := hstep
              rw [hafter]
              exact h.merge hmerged
          | poll s owner => simp [OutputOp.writes] at hwrites

-- As long as nothing is accepted the first effective poll takes what waits, and the
-- later ones find nothing.
theorem polled_runFrom (hprofile : profile.isPlaystation = true)
    (hslot : PadSlot profile run.data) (ops : List OutputOp)
    (hnone : ∀ op ∈ ops, op.writes profile = none) :
    (run.runFrom ops).data.playstationFeedback = run.data.playstationFeedback ∧
      (run.runFrom ops).polled = run.polled ++
        if run.data.feedback.feedbackPending && ops.any OutputOp.polls then
          [run.data.feedback.feedback] else [] := by
  induction ops generalizing run with
  | nil => simp [runFrom]
  | cons op rest ih =>
      have hrest := @ih (run.step op) (padSlot_step hprofile hslot op)
        fun other hmem => hnone other (List.mem_cons_of_mem _ hmem)
      have hop := hnone op (List.mem_cons_self ..)
      have hrun : run.runFrom (op :: rest) = (run.step op).runFrom rest := rfl
      rw [hrun]
      cases op with
      | write s transfer =>
          have hstep := step_write hprofile hslot s transfer
          rw [hop] at hstep
          rw [hstep.1] at hrest ⊢
          simpa [OutputOp.polls] using hrest
      | poll s owner =>
          rw [step_poll hslot] at hrest ⊢
          cases hpolls : (OutputOp.poll s owner).polls <;>
            cases hpending : run.data.feedback.feedbackPending <;>
            simp_all

end OutputRun

-- What the owner of a pad's slot is told of the reports of its host.
structure OutputsKept (controllerId : UInt32) (profile : Profile) (ops : List OutputOp) : Prop where
  -- The state that is kept is what the accepted reports come to.
  retained : Retained (ops.filterMap (OutputOp.writes profile))
    ((OutputRun.start controllerId profile).runFrom ops).data.playstationFeedback
  accepted : ∀ s transfer, ((OutputOp.write s transfer).writes profile).isSome ↔
    (s.write transfer ((OutputRun.start controllerId profile).runFrom ops).data).status =
      some .success
  refused : ∀ s transfer, (OutputOp.write s transfer).writes profile = none →
    ((OutputRun.start controllerId profile).runFrom ops).step (.write s transfer) =
      (OutputRun.start controllerId profile).runFrom ops
  -- After the last accepted report the polls get its merged state, once.
  polled : ∀ before s transfer after, ops = before ++ .write s transfer :: after →
    ((OutputOp.write s transfer).writes profile).isSome →
    (∀ op ∈ after, op.writes profile = none) →
    ((OutputRun.start controllerId profile).runFrom ops).polled =
      ((OutputRun.start controllerId profile).runFrom before).polled ++
        if after.any OutputOp.polls then
          [encodePlaystationFeedback s.controllerId
            ((OutputRun.start controllerId profile).runFrom ops).data.playstationFeedback]
        else []
  unwritten : (∀ op ∈ ops, op.writes profile = none) →
    ((OutputRun.start controllerId profile).runFrom ops).polled = []

theorem playstation_output (controllerId : UInt32) (profile : Profile)
    (hprofile : profile.isPlaystation = true) (ops : List OutputOp) :
    OutputsKept controllerId profile ops := by
  have hstart : PadSlot profile (OutputRun.start controllerId profile).data := ⟨rfl, rfl, rfl⟩
  have hslot := OutputRun.padSlot_runFrom hprofile hstart ops
  refine ⟨?_, fun s transfer => ?_, fun s transfer hnone => ?_, ?_, fun hnone => ?_⟩
  · have hretained := OutputRun.retained_runFrom hprofile hstart Retained.zero ops
    rwa [List.nil_append] at hretained
  · have hstep := OutputRun.step_write hprofile hslot s transfer
    cases hwrites : (OutputOp.write s transfer).writes profile with
    | none =>
        rw [hwrites] at hstep
        simp [hstep.2]
    | some writes =>
        rw [hwrites] at hstep
        obtain ⟨_, -, -, hstatus⟩ := hstep
        simp [hstatus]
  · have hstep := OutputRun.step_write hprofile hslot s transfer
    rw [hnone] at hstep
    exact hstep.1
  · intro before s transfer after hops hsome hnone
    have hbefore := OutputRun.padSlot_runFrom hprofile hstart before
    obtain ⟨writes, hwrites⟩ := Option.isSome_iff_exists.mp hsome
    have hstep := OutputRun.step_write hprofile hbefore s transfer
    rw [hwrites] at hstep
    obtain ⟨new, -, hafter, -⟩ := hstep
    have hrun : (OutputRun.start controllerId profile).runFrom ops =
        (((OutputRun.start controllerId profile).runFrom before).step (.write s transfer)).runFrom
          after := by
      rw [hops]
      simp only [OutputRun.runFrom, List.foldl_append, List.foldl_cons]
    obtain ⟨hkept, hpolled⟩ := OutputRun.polled_runFrom hprofile
      (OutputRun.padSlot_step hprofile hbefore (.write s transfer)) after hnone
    rw [hrun, hkept, hpolled, hafter]
    rfl
  · have hpolled := (OutputRun.polled_runFrom hprofile hstart ops hnone).2
    rw [hpolled]
    rfl

-- A published slot of a pad, and the light of its bar in the Bluetooth form.
private def padSection : Section where
  flags := ⟨false, true, true, false, false⟩
  control := { generation := 1, vhf := some 0, owner := some 7, state := .active, submitsInFlight := 0 }
  controllerId := 3
  now := 0

private def barReport : List UInt8 :=
  [0x31, 0, 0x10, 0, 0x04] ++ List.replicate 42 0 ++ [0x11, 0x22, 0x33]

theorem playstation_output_bar :
    OutputsKept 3 .dualsense [.write padSection ⟨0x31, some barReport⟩, .poll padSection 7] ∧
      ((OutputOp.write padSection ⟨0x31, some barReport⟩).writes .dualsense).map
        (fun write => write .lightbar) = some (some [0x11, 0x22, 0x33]) :=
  ⟨playstation_output 3 .dualsense rfl _, by decide⟩

end LibVirtualGamepad
