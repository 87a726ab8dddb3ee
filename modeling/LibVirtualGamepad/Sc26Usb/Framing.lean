import LibVirtualGamepad.Sc26Usb.Reply
import Mathlib.Data.List.Basic

-- What a host can send on the control channel and what it can read back.
namespace LibVirtualGamepad.Sc26Usb

inductive ControlOp where
  | set (data : Option (List UInt8))
  | get (capacity : Nat)

namespace ControlOp

def run (fs : FeatureState) : ControlOp → FeatureState
  | .set data => (setFeature data fs).2
  | .get _ => fs

def accepted : ControlOp → Bool
  | .set data => (parseFeature data).isSome
  | .get _ => false

end ControlOp

-- The transfers that are refused.
def Malformed (data : Option (List UInt8)) : Prop :=
  data = none ∨ ∃ bytes, data = some bytes ∧
    (bytes.length < 3 ∨ bytes.getD 0 0 ≠ featuresReportId ∨
      bytes.length - 3 < (bytes.getD 2 0).toNat)

-- The payload under the report id, the command and its length, and nothing behind it.
def framed (type : UInt8) (payload : List UInt8) : List UInt8 :=
  [featuresReportId, type, UInt8.ofNat payload.length] ++ payload ++
    List.replicate (replyCapacity - payload.length) 0

structure Replies (fs : FeatureState) (type : UInt8) (payload : List UInt8) : Prop where
  short : payload.length ≤ replyCapacity
  reply : fs.reply.toList = framed type payload
  haveReply : fs.haveReply = true

-- A command leaves the reply as it is, or fills it in within its bounds.
inductive Answers (fs : FeatureState) (type : UInt8) : FeatureState → Prop where
  | kept {fs' : FeatureState} (reply : fs'.reply = fs.reply)
      (haveReply : fs'.haveReply = fs.haveReply) : Answers fs type fs'
  | filled {length : Nat} {out : List UInt8} (fits : out.length ≤ length)
      (short : length ≤ replyCapacity) : Answers fs type (fs.answer type length out)

namespace Command

def known : List UInt8 :=
  [clearDigitalMappings, getAttributesValues, setDefaultDigitalMappings, setSettingsValues,
    getSettingsValues, getSettingsMaxs, getSettingsDefaults, loadDefaultSettings,
    triggerHapticPulse, getStringAttribute, writeC1, writeDc, writeE2, getKeyedValue, getDeviceInfo]

end Command

section Parse

theorem parseFeature_eq_none (data : Option (List UInt8)) :
    parseFeature data = none ↔ Malformed data := by
  unfold Malformed
  match data with
  | none => simp [parseFeature]
  | some [] => simp [parseFeature]
  | some [_] => simp [parseFeature]
  | some [_, _] => simp [parseFeature]
  | some (id :: type :: length :: payload) =>
    simp only [parseFeature, reduceCtorEq, false_or, Option.some.injEq, exists_eq_left',
      List.length_cons, List.getD_cons_zero, List.getD_cons_succ]
    have hthree : ¬payload.length + 1 + 1 + 1 < 3 := by omega
    have hrest : payload.length + 1 + 1 + 1 - 3 = payload.length := by omega
    rw [hrest]
    simp only [hthree, false_or]
    split
    · next h => simpa using h
    · next h => simpa using h

-- What is parsed stands in the first three bytes and the declared length behind them.
theorem parseFeature_take {bytes : List UInt8} {type : UInt8} {payload : List UInt8}
    (h : parseFeature (some bytes) = some (type, payload)) :
    payload.length = (bytes.getD 2 0).toNat ∧ 3 + payload.length ≤ bytes.length ∧
      bytes.take (3 + payload.length) =
        [featuresReportId, type, UInt8.ofNat payload.length] ++ payload := by
  match bytes with
  | [] | [_] | [_, _] => simp [parseFeature] at h
  | id :: type' :: length :: rest =>
    simp only [parseFeature] at h
    split at h
    · cases h
    · next hguard =>
      obtain ⟨hid, hlength⟩ := not_or.1 hguard
      cases h
      have hlen : (rest.take length.toNat).length = length.toNat := by
        rw [List.length_take]
        omega
      rw [hlen, Nat.add_comm 3]
      refine ⟨rfl, ?_, ?_⟩
      · simp only [List.length_cons]
        omega
      · simp only [List.take_succ_cons, UInt8.ofNat_toNat, not_not.1 hid, List.cons_append,
          List.nil_append]

theorem parseFeature_append {bytes : List UInt8} {parsed : UInt8 × List UInt8}
    (h : parseFeature (some bytes) = some parsed) (tail : List UInt8) :
    parseFeature (some (bytes.take (3 + (bytes.getD 2 0).toNat) ++ tail)) = some parsed := by
  obtain ⟨type, payload⟩ := parsed
  obtain ⟨hlen, -, htake⟩ := parseFeature_take h
  rw [← hlen, htake]
  have hbyte : (UInt8.ofNat payload.length).toNat = payload.length := by
    rw [hlen, UInt8.ofNat_toNat]
  simp only [parseFeature, List.cons_append, List.nil_append, ne_eq, not_true_eq_false, false_or,
    hbyte, List.length_append]
  rw [if_neg (by omega), List.take_left']
  rfl

end Parse

section Reply

variable (fs : FeatureState) (type : UInt8)

theorem replies_answer {length : Nat} {out : List UInt8} (h : out.length ≤ length)
    (h' : length ≤ replyCapacity) :
    ∃ payload, Replies (fs.answer type length out) type payload := by
  have hlen : (out ++ List.replicate (length - out.length) 0).length = length := by
    rw [List.length_append, List.length_replicate]
    omega
  refine ⟨out ++ List.replicate (length - out.length) 0, ?_, ?_, rfl⟩
  · omega
  · have hzeros : replyCapacity - out.length = (length - out.length) + (replyCapacity - length) := by
      omega
    rw [reply_answer _ _ _ _ (Nat.le_trans h h'), framed, hlen, hzeros, List.replicate_add]
    simp only [List.append_assoc]

theorem settingsReply_length (payload : List UInt8) :
    (settingsReply fs type payload).length ≤ replyCapacity := by
  have hcapacity : replyCapacity = 61 := rfl
  have htriples (ids : List UInt8) :
      (ids.flatMap fun id => id :: le16 (settingValue fs type id)).length = 3 * ids.length := by
    induction ids with
    | nil => rfl
    | cons id rest ih =>
      rw [List.flatMap_cons, List.length_append, ih, List.length_cons]
      simp only [le16, List.length_cons, List.length_nil]
      omega
  unfold settingsReply
  dsimp only
  rw [htriples, List.length_take]
  omega

theorem stringReply_length (payload : List UInt8) :
    (stringReply fs payload).length ≤ stringAttrReplyLength := by
  have hlength : stringAttrReplyLength = 20 := rfl
  unfold stringReply
  dsimp only
  rw [List.length_cons, List.length_take]
  omega

theorem deviceInfoReply_length (payload : List UInt8) :
    (deviceInfoReply fs payload).2.length ≤ (deviceInfoReply fs payload).1 ∧
      (deviceInfoReply fs payload).1 ≤ replyCapacity := by
  have hcapacity : replyCapacity = 61 := rfl
  unfold deviceInfoReply
  dsimp only
  split
  · simp only [List.length_append, field16_length, le32, le16, List.length_cons, List.length_nil]
    omega
  · split
    · simp only [List.length_cons, List.length_nil]
      omega
    · simp only [List.length_cons, List.length_nil]
      omega

theorem storeSettings_reply (settings : List (UInt8 × UInt16)) (fs : FeatureState) :
    (settings.foldl storeSetting fs).reply = fs.reply ∧
      (settings.foldl storeSetting fs).haveReply = fs.haveReply := by
  induction settings generalizing fs with
  | nil => exact ⟨rfl, rfl⟩
  | cons setting rest ih => exact ih (storeSetting fs setting)

theorem runCommand_answers (fs : FeatureState) (type : UInt8) (payload : List UInt8) :
    Answers fs type (runCommand fs type payload) := by
  have hkept : Answers fs type fs := .kept rfl rfl
  have hdefaults : Answers fs type (loadDefaults fs) := by
    unfold loadDefaults
    exact .kept rfl rfl
  have hstored : Answers fs type ((triples payload).foldl storeSetting fs) := by
    obtain ⟨hreply, hhave⟩ := storeSettings_reply (triples payload) fs
    exact .kept hreply hhave
  have hattributes : (attributesReply fs).length ≤ replyCapacity := by
    have hlength : (attributesReply fs).length = 30 := rfl
    have hcapacity : replyCapacity = 61 := rfl
    omega
  have hinfo := deviceInfoReply_length fs payload
  unfold runCommand
  refine iteInduction (fun _ => hkept) fun _ => ?_
  refine iteInduction (fun _ => hdefaults) fun _ => ?_
  refine iteInduction (fun _ => hstored) fun _ => ?_
  refine iteInduction (fun _ => .filled (Nat.le_refl _) (settingsReply_length fs type payload))
    fun _ => ?_
  refine iteInduction (fun _ => .filled (Nat.le_refl _) hattributes) fun _ => ?_
  refine iteInduction (fun _ => .filled (stringReply_length fs payload) (by decide)) fun _ => ?_
  refine iteInduction (fun _ => hkept) fun _ => ?_
  refine iteInduction (fun _ => ?_) fun _ => ?_
  · refine iteInduction (fun _ => ?_) fun _ => hkept
    exact .filled (Nat.le_refl _) (by decide)
  refine iteInduction (fun _ => .filled hinfo.1 hinfo.2) fun _ => ?_
  refine iteInduction (fun _ => hkept) fun _ => ?_
  exact .kept rfl rfl

theorem runCommand_replies (fs : FeatureState) (type : UInt8) (payload : List UInt8) :
    ∃ reply, Replies (runCommand (fs.answer type 0 []) type payload) type reply := by
  generalize hresult : runCommand (fs.answer type 0 []) type payload = result
  have hanswers := runCommand_answers (fs.answer type 0 []) type payload
  rw [hresult] at hanswers
  cases hanswers with
  | kept hreply hhave =>
    have hnil : ([] : List UInt8).length ≤ 0 := Nat.le_refl 0
    obtain ⟨reply, hreplies⟩ := replies_answer fs type hnil (Nat.zero_le _)
    refine ⟨reply, hreplies.short, ?_, ?_⟩
    · rw [hreply, hreplies.reply]
    · rw [hhave, hreplies.haveReply]
  | filled hle hle' => exact replies_answer (fs.answer type 0 []) type hle hle'

variable {fs type}

theorem runCommand_unknown (fs : FeatureState) {type : UInt8} (h : type ∉ Command.known)
    (payload : List UInt8) :
    runCommand fs type payload =
      { fs with lastUnknownCommand := type, unknownCommands := fs.unknownCommands + 1 } := by
  simp only [Command.known, List.mem_cons, List.not_mem_nil, or_false, not_or] at h
  obtain ⟨h₁, h₂, h₃, h₄, h₅, h₆, h₇, h₈, h₉, h₁₀, h₁₁, h₁₂, h₁₃, h₁₄, h₁₅⟩ := h
  unfold runCommand
  rw [if_neg (not_or.2 ⟨h₁, h₃⟩), if_neg h₈, if_neg h₄, if_neg (not_or.2 ⟨h₅, not_or.2 ⟨h₇, h₆⟩⟩),
    if_neg h₂, if_neg h₁₀, if_neg (not_or.2 ⟨h₁₁, not_or.2 ⟨h₁₂, h₁₃⟩⟩), if_neg h₁₄, if_neg h₁₅,
    if_neg h₉]

theorem getFeature_replies {fs : FeatureState} {type : UInt8} {payload : List UInt8}
    (h : Replies fs type payload) {capacity : Nat} (hc : featureReportSize ≤ capacity) :
    getFeature capacity fs =
      some (framed type payload ++ List.replicate (capacity - featureReportSize) 0) := by
  unfold getFeature
  rw [if_neg (by omega)]
  simp only [h.haveReply, if_true, h.reply]

end Reply

-- Reads and refused transfers leave the reply standing.
theorem control_unaccepted {ops : List ControlOp} (h : ∀ op ∈ ops, op.accepted = false)
    (fs : FeatureState) : ops.foldl ControlOp.run fs = fs := by
  induction ops generalizing fs with
  | nil => rfl
  | cons op rest ih =>
    rw [List.foldl_cons]
    have hhead : op.run fs = fs := by
      have hnot := h op (by simp)
      cases op with
      | get capacity => rfl
      | set data =>
        have hnone : parseFeature data = none := by
          simpa only [ControlOp.accepted, Option.isSome_eq_false_iff, Option.isNone_iff_eq_none]
            using hnot
        simp only [ControlOp.run, setFeature, hnone]
    rw [hhead]
    exact ih (fun op hop => h op (List.mem_cons_of_mem _ hop)) fs

-- The channel for one transfer.
structure Channel (data : Option (List UInt8)) (fs : FeatureState) : Prop where
  refusal : (setFeature data fs).1 = false ↔ Malformed data
  unchanged : (setFeature data fs).1 = false → (setFeature data fs).2 = fs
  -- What every read gives until the next accepted command.
  reply : ∀ bytes, data = some bytes → (setFeature data fs).1 = true → ∃ payload,
    payload.length ≤ 61 ∧ ∀ (later : List ControlOp), (∀ op ∈ later, op.accepted = false) →
      ∀ capacity, 64 ≤ capacity →
        getFeature capacity (later.foldl ControlOp.run (setFeature data fs).2) =
          some ([1, bytes.getD 1 0, UInt8.ofNat payload.length] ++ payload ++
            List.replicate (capacity - (3 + payload.length)) 0)
  -- An earlier reply is gone.
  fresh : ∀ reply haveReply, (setFeature data fs).1 = true →
    (setFeature data { fs with reply := reply, haveReply := haveReply }).2 = (setFeature data fs).2
  -- The bytes behind the declared length are not read.
  bounded : ∀ bytes, data = some bytes → (setFeature data fs).1 = true → ∀ tail,
    setFeature (some (bytes.take (3 + (bytes.getD 2 0).toNat) ++ tail)) fs = setFeature data fs
  unknown : ∀ bytes, data = some bytes → (setFeature data fs).1 = true →
    bytes.getD 1 0 ∉ Command.known →
      (setFeature data fs).2.unknownCommands = fs.unknownCommands + 1 ∧
      (setFeature data fs).2.lastUnknownCommand = bytes.getD 1 0 ∧
      (setFeature data fs).2.reply.toList = framed (bytes.getD 1 0) []

theorem setFeature_accepted {bytes : List UInt8} {fs : FeatureState}
    (h : (setFeature (some bytes) fs).1 = true) : ∃ payload,
      parseFeature (some bytes) = some (bytes.getD 1 0, payload) ∧
      setFeature (some bytes) fs =
        (true, runCommand (fs.answer (bytes.getD 1 0) 0 []) (bytes.getD 1 0) payload) := by
  cases hparse : parseFeature (some bytes) with
  | none =>
    simp only [setFeature, hparse] at h
    cases h
  | some parsed =>
    obtain ⟨type, payload⟩ := parsed
    have htype : bytes.getD 1 0 = type := by
      obtain ⟨-, -, htake⟩ := parseFeature_take hparse
      have hget := congrArg (fun bytes : List UInt8 => bytes[1]?) htake
      simp only [List.getElem?_take, List.cons_append, List.getElem?_cons_succ,
        List.getElem?_cons_zero] at hget
      rw [if_pos (by omega)] at hget
      rw [List.getD_eq_getElem?_getD, hget, Option.getD_some]
    rw [htype]
    exact ⟨payload, rfl, by simp only [setFeature, hparse]⟩

-- Every buffer, size and state.
theorem control_channel (data : Option (List UInt8)) (fs : FeatureState) : Channel data fs := by
  constructor
  case refusal =>
    rw [← parseFeature_eq_none]
    cases hparse : parseFeature data with
    | none => simp only [setFeature, hparse]
    | some parsed => simp only [setFeature, hparse, Bool.true_eq_false, reduceCtorEq]
  case unchanged =>
    intro h
    cases hparse : parseFeature data with
    | none => simp only [setFeature, hparse]
    | some parsed =>
      simp only [setFeature, hparse] at h
      cases h
  case reply =>
    rintro bytes rfl h
    obtain ⟨sent, -, heq⟩ := setFeature_accepted h
    obtain ⟨payload, hreplies⟩ := runCommand_replies fs (bytes.getD 1 0) sent
    refine ⟨payload, hreplies.short, ?_⟩
    intro later hlater capacity hcapacity
    rw [heq, control_unaccepted hlater, getFeature_replies hreplies hcapacity, framed,
      List.append_assoc, ← List.replicate_add]
    have hshort := hreplies.short
    have hroom : replyCapacity - payload.length + (capacity - featureReportSize) =
        capacity - (3 + payload.length) := by
      have hcap : replyCapacity = 61 := rfl
      have hsize : featureReportSize = 64 := rfl
      omega
    rw [hroom]
    unfold featuresReportId
    rfl
  case fresh =>
    intro reply haveReply h
    cases hparse : parseFeature data with
    | none =>
      simp only [setFeature, hparse] at h
      cases h
    | some parsed => simp only [setFeature, hparse, FeatureState.answer]
  case bounded =>
    rintro bytes rfl h tail
    obtain ⟨payload, hparse, -⟩ := setFeature_accepted h
    simp only [setFeature, parseFeature_append hparse tail, hparse]
  case unknown =>
    rintro bytes rfl h hunknown
    obtain ⟨payload, -, heq⟩ := setFeature_accepted h
    rw [heq, runCommand_unknown _ hunknown]
    have hempty := reply_answer fs (bytes.getD 1 0) 0 [] (Nat.zero_le _)
    refine ⟨?_, ?_, hempty⟩
    · dsimp only [FeatureState.answer]
    · dsimp only

end LibVirtualGamepad.Sc26Usb
