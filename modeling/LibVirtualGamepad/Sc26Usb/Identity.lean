import LibVirtualGamepad.Sc26Usb.Reply
import Mathlib.Data.List.TakeWhile

-- The identity a controller reports: what updates may change of it, and that all
-- replies tell the same.
namespace LibVirtualGamepad.Sc26Usb

inductive IdentityOp where
  | update (request : SteamControllerAttributesRequest)
  | transfer (data : Option (List UInt8))

namespace FeatureState

def identityStep (fs : FeatureState) : IdentityOp → FeatureState
  | .update request => (applyAttributes request fs).1
  | .transfer data => (setFeature data fs).2

def runIdentity (fs : FeatureState) (ops : List IdentityOp) : FeatureState :=
  ops.foldl identityStep fs

end FeatureState

-- The value behind a tag in a list of attributes.
def attributeBytes (tag : UInt8) : List UInt8 → Option (List UInt8)
  | t :: a :: b :: c :: d :: rest => if t = tag then some [a, b, c, d] else attributeBytes tag rest
  | _ => none

-- At most fifteen printable characters, at least one, and zeros behind them.
def TextOk (chars : Vector UInt8 16) : Prop :=
  ∃ text : List UInt8, text ≠ [] ∧ text.length ≤ 15 ∧ (∀ c ∈ text, 0x20 ≤ c ∧ c ≤ 0x7E) ∧
    chars.toList = text ++ List.replicate (16 - text.length) 0

section Text

theorem untilNul_append_zeros {text : List UInt8} (h : ∀ c ∈ text, c ≠ 0) (n : Nat) :
    untilNul (text ++ List.replicate n 0) = text := by
  unfold untilNul
  rw [List.takeWhile_append_of_pos fun c hc => by simpa using h c hc]
  cases n <;> simp [List.replicate_succ]

theorem untilNul_untilNul_append (chars : List UInt8) (n : Nat) :
    untilNul (untilNul chars ++ List.replicate n 0) = untilNul chars :=
  untilNul_append_zeros (fun c hc => by simpa using List.mem_takeWhile_imp hc) n

theorem printable_ne_zero {c : UInt8} (h : 0x20 ≤ c) : c ≠ 0 := by
  intro hzero
  rw [hzero] at h
  exact absurd h (by decide)

theorem TextOk.untilNul_length {chars : Vector UInt8 16} (h : TextOk chars) :
    (untilNul chars.toList).length ≤ 15 := by
  obtain ⟨text, _, hlen, hprintable, heq⟩ := h
  rw [heq, untilNul_append_zeros fun c hc => printable_ne_zero (hprintable c hc).1]
  exact hlen

-- The first fifteen characters up to a zero, padded.
def shortened (chars : Vector UInt8 16) : List UInt8 :=
  (untilNul chars.toList).take 15 ++
    List.replicate (16 - ((untilNul chars.toList).take 15).length) 0

theorem store_toList (chars : Vector UInt8 16) :
    (storeAttributeString chars).toList = shortened chars := by
  unfold shortened
  have hlen : ((untilNul chars.toList).take 15).length ≤ 15 := List.length_take_le _ _
  apply List.ext_getElem
  · simp only [Vector.length_toList, List.length_append, List.length_replicate]
    omega
  · intro i hi _
    simp only [storeAttributeString, Vector.getElem_toList, Vector.getElem_ofFn]
    by_cases hlt : i < ((untilNul chars.toList).take 15).length
    · rw [List.getD_eq_getElem?_getD, List.getElem?_eq_getElem hlt, Option.getD_some,
        List.getElem_append_left hlt]
    · have hge := Nat.le_of_not_lt hlt
      rw [List.getElem_append_right hge, List.getElem_replicate, List.getD_eq_getElem?_getD,
        List.getElem?_eq_none hge, Option.getD_none]

theorem textOk_store {chars : Vector UInt8 16} (h : printableAttributeString chars = true) :
    TextOk (storeAttributeString chars) := by
  simp only [printableAttributeString, Bool.and_eq_true, List.all_eq_true, Bool.not_eq_true',
    decide_eq_true_eq] at h
  obtain ⟨hprintable, hnonempty⟩ := h
  refine ⟨(untilNul chars.toList).take 15, ?_, List.length_take_le _ _, fun c hc => ?_,
    store_toList chars⟩
  · intro hnil
    rw [List.take_eq_nil_iff] at hnil
    rcases hnil with h | h
    · omega
    · rw [h] at hnonempty
      simp at hnonempty
  · exact hprintable c (List.mem_of_mem_take hc)

end Text

-- What an update leaves of one text field.
theorem text_update {applies : Bool} {old new chars : Vector UInt8 16}
    (h : new = if applies then storeAttributeString chars else old) (hold : TextOk old)
    (hprintable : applies = true → printableAttributeString chars = true) : TextOk new := by
  cases happly : applies with
  | false =>
      rw [h, happly]
      exact hold
  | true =>
      rw [h, happly]
      exact textOk_store (hprintable happly)

def flagged (request : SteamControllerAttributesRequest) (flag : UInt32) : Prop :=
  request.flags &&& flag ≠ 0

instance (request : SteamControllerAttributesRequest) (flag : UInt32) :
    Decidable (flagged request flag) := inferInstanceAs (Decidable (_ ≠ _))

-- The numbers follow their flags.
theorem applyAttributes_attrs (request : SteamControllerAttributesRequest) (fs : FeatureState) :
    (applyAttributes request fs).1.attrs = { fs.attrs with
      firmwareBuildTime := if flagged request AttrUpdate.firmwareBuildTime then
        request.firmwareBuildTime else fs.attrs.firmwareBuildTime
      bootloaderBuildTime := if flagged request AttrUpdate.bootloaderBuildTime then
        request.bootloaderBuildTime else fs.attrs.bootloaderBuildTime
      boardRevision := if flagged request AttrUpdate.boardRevision then
        request.boardRevision else fs.attrs.boardRevision
      capabilities := if flagged request AttrUpdate.capabilities then
        request.capabilities else fs.attrs.capabilities } := by
  simp only [applyAttributes, flagged, bne_iff_ne]
  by_cases hfirmware : request.flags &&& AttrUpdate.firmwareBuildTime ≠ 0 <;>
    by_cases hbootloader : request.flags &&& AttrUpdate.bootloaderBuildTime ≠ 0 <;>
    by_cases hboard : request.flags &&& AttrUpdate.boardRevision ≠ 0 <;>
    by_cases hcapabilities : request.flags &&& AttrUpdate.capabilities ≠ 0 <;>
    simp [hfirmware, hbootloader, hboard, hcapabilities]

-- What a unit says of itself.
structure Identity where
  attrs : Attributes
  unitSerial : Vector UInt8 16
  boardSerial : Vector UInt8 16
  buildId : Vector UInt8 16

namespace FeatureState

def identity (fs : FeatureState) : Identity := ⟨fs.attrs, fs.unitSerial, fs.boardSerial, fs.buildId⟩

theorem identity_answer (fs : FeatureState) (type : UInt8) (length : Nat) (out : List UInt8) :
    (fs.answer type length out).identity = fs.identity := by
  simp only [identity, answer]

theorem identity_storeSettings (settings : List (UInt8 × UInt16)) (fs : FeatureState) :
    (settings.foldl storeSetting fs).identity = fs.identity := by
  induction settings generalizing fs with
  | nil => rfl
  | cons setting rest ih =>
      have hstore : (storeSetting fs setting).identity = fs.identity := by
        simp only [identity, storeSetting]
      rw [List.foldl_cons, ih, hstore]

-- A control transfer leaves the identity alone.
theorem identity_runCommand (fs : FeatureState) (type : UInt8) (payload : List UInt8) :
    (runCommand fs type payload).identity = fs.identity := by
  unfold runCommand
  split
  · rfl
  split
  · simp only [identity, loadDefaults]
  split
  · exact identity_storeSettings _ fs
  split
  · exact identity_answer fs _ _ _
  split
  · exact identity_answer fs _ _ _
  split
  · exact identity_answer fs _ _ _
  split
  · rfl
  split
  · split
    · exact identity_answer fs _ _ _
    · rfl
  split
  · exact identity_answer fs _ _ _
  split
  · rfl
  · simp only [identity]

theorem identity_setFeature (fs : FeatureState) (data : Option (List UInt8)) :
    (setFeature data fs).2.identity = fs.identity := by
  unfold setFeature
  split
  · rfl
  · rw [identity_runCommand, identity_answer]

theorem identity_transfers (fs : FeatureState) (transfers : List (Option (List UInt8))) :
    (fs.runIdentity (transfers.map .transfer)).identity = fs.identity := by
  induction transfers generalizing fs with
  | nil => rfl
  | cons data rest ih =>
      have hrest := ih (setFeature data fs).2
      exact hrest.trans (identity_setFeature fs data)

end FeatureState

-- What never changes, and the form that the texts keep.
structure IdentityOk (identity : Identity) : Prop where
  productId : identity.attrs.productId = 0x1302
  connectionIntervalUs : identity.attrs.connectionIntervalUs = 4000
  unitSerial : TextOk identity.unitSerial
  boardSerial : TextOk identity.boardSerial
  buildId : TextOk identity.buildId

namespace IdentityOk

variable {fs : FeatureState}

theorem initial : IdentityOk FeatureState.initial.identity where
  productId := rfl
  connectionIntervalUs := rfl
  unitSerial := ⟨"LVGSC260000".toList.map fun c => UInt8.ofNat c.toNat, by decide, by decide,
    forall_mem_of_all (by decide), by decide⟩
  boardSerial := ⟨"LVGSC26BOARD0".toList.map fun c => UInt8.ofNat c.toNat, by decide, by decide,
    forall_mem_of_all (by decide), by decide⟩
  buildId := ⟨"000000000000".toList.map fun c => UInt8.ofNat c.toNat, by decide, by decide,
    forall_mem_of_all (by decide), by decide⟩

theorem update (h : IdentityOk fs.identity) (request : SteamControllerAttributesRequest) :
    IdentityOk (applyAttributes request fs).1.identity where
  productId := by
    have hattrs := applyAttributes_attrs request fs
    simp only [FeatureState.identity, hattrs]
    exact h.productId
  connectionIntervalUs := by
    have hattrs := applyAttributes_attrs request fs
    simp only [FeatureState.identity, hattrs]
    exact h.connectionIntervalUs
  unitSerial := text_update rfl h.unitSerial fun ha => (Bool.and_eq_true _ _ ▸ ha).2
  boardSerial := text_update rfl h.boardSerial fun ha => (Bool.and_eq_true _ _ ▸ ha).2
  buildId := text_update rfl h.buildId fun ha => (Bool.and_eq_true _ _ ▸ ha).2

theorem runIdentity (h : IdentityOk fs.identity) (ops : List IdentityOp) :
    IdentityOk (fs.runIdentity ops).identity := by
  induction ops generalizing fs with
  | nil => exact h
  | cons op rest ih =>
      cases op with
      | update request => exact ih (h.update request)
      | transfer data =>
          have hdata : IdentityOk (setFeature data fs).2.identity := by
            rw [FeatureState.identity_setFeature]
            exact h
          exact ih hdata

end IdentityOk

theorem untilNul_field16 {chars : Vector UInt8 16} (h : TextOk chars) :
    untilNul (field16 chars.toList) = untilNul chars.toList := by
  have hlen := h.untilNul_length
  rw [field16, List.take_of_length_le (by omega)]
  exact untilNul_untilNul_append _ _

theorem attributesReply_length (fs : FeatureState) : (attributesReply fs).length = 30 := by
  have hcapacity : replyCapacity / 5 = 12 := rfl
  simp [attributesReply, hcapacity, le32, le16]

theorem attributesReply_firmwareBuildTime (fs : FeatureState) :
    attributeBytes Attribute.firmwareBuildTime (attributesReply fs) =
      some (le32 fs.attrs.firmwareBuildTime) := rfl

theorem attributesReply_boardRevision (fs : FeatureState) :
    attributeBytes Attribute.boardRevision (attributesReply fs) =
      some (le32 fs.attrs.boardRevision) := rfl

-- The reply a host reads back after a transfer.
def replyTo (fs : FeatureState) (data : Option (List UInt8)) : Option (List UInt8) :=
  getFeature featureReportSize (setFeature data fs).2

section Replies

variable {fs : FeatureState} {data : Option (List UInt8)} {payload : List UInt8}

theorem replyTo_attributes (h : parseFeature data = some (Command.getAttributesValues, payload)) :
    replyTo fs data = some ([featuresReportId, Command.getAttributesValues, 30] ++
      attributesReply fs ++ List.replicate 31 0) := by
  have hanswer : attributesReply (fs.answer Command.getAttributesValues 0 []) =
      attributesReply fs := by
    simp only [attributesReply, FeatureState.answer]
  have hlen := attributesReply_length fs
  unfold replyTo setFeature
  rw [h]
  simp only [runCommand_getAttributes, hanswer]
  rw [getFeature_answer _ _ _ _ (by rw [hlen]; decide), hlen]
  rfl

theorem replyTo_string (fs : FeatureState)
    (h : parseFeature data = some (Command.getStringAttribute, payload))
    (hok : TextOk fs.unitSerial) (hunit : payload.headD stringAttrUnitSerial ≠ stringAttrBoardSerial) :
    ∃ zeros, replyTo fs data = some ([featuresReportId, Command.getStringAttribute, 20,
      payload.headD stringAttrUnitSerial] ++ untilNul fs.unitSerial.toList ++
        List.replicate (zeros + 1) 0) := by
  have hshort := hok.untilNul_length
  have hreply : stringReply (fs.answer Command.getStringAttribute 0 []) payload =
      payload.headD stringAttrUnitSerial :: untilNul fs.unitSerial.toList := by
    simp only [stringReply, FeatureState.answer, if_neg hunit]
    rw [List.take_of_length_le (by have : stringAttrReplyLength = 20 := rfl; omega)]
  have hlen : (payload.headD stringAttrUnitSerial :: untilNul fs.unitSerial.toList).length ≤ 16 := by
    rw [List.length_cons]
    omega
  have hcapacity : replyCapacity = 61 := rfl
  refine ⟨60 - (untilNul fs.unitSerial.toList).length - 1, ?_⟩
  unfold replyTo setFeature
  rw [h]
  simp only [runCommand_getString, hreply]
  rw [getFeature_answer _ _ _ _ (by omega)]
  have hzeros : 60 - (untilNul fs.unitSerial.toList).length - 1 + 1 =
      replyCapacity - (payload.headD stringAttrUnitSerial ::
        untilNul fs.unitSerial.toList).length := by
    rw [List.length_cons]
    omega
  rw [hzeros]
  simp only [List.cons_append, List.nil_append]
  rfl

theorem replyTo_deviceInfo (fs : FeatureState)
    (h : parseFeature data = some (Command.getDeviceInfo, payload))
    (hsub : payload.headD 0 = 0) :
    ∃ zeros, replyTo fs data = some ([featuresReportId, Command.getDeviceInfo, 41, 0] ++
      le32 fs.attrs.firmwareBuildTime ++ le32 fs.attrs.boardRevision ++
      field16 fs.buildId.toList ++ field16 fs.unitSerial.toList ++ List.replicate zeros 0) := by
  have hreply : deviceInfoReply (fs.answer Command.getDeviceInfo 0 []) payload =
      (41, [0] ++ le32 fs.attrs.firmwareBuildTime ++ le32 fs.attrs.boardRevision ++
        field16 fs.buildId.toList ++ field16 fs.unitSerial.toList) := by
    simp only [deviceInfoReply, hsub, if_true, FeatureState.answer]
  have hlen : ([0] ++ le32 fs.attrs.firmwareBuildTime ++ le32 fs.attrs.boardRevision ++
      field16 fs.buildId.toList ++ field16 fs.unitSerial.toList).length = 41 := by
    simp [field16_length, le32, le16]
  refine ⟨20, ?_⟩
  unfold replyTo setFeature
  rw [h]
  simp only [runCommand_getDeviceInfo, hreply]
  rw [getFeature_answer _ _ _ _ (by rw [hlen]; decide), hlen]
  simp only [List.append_assoc, List.cons_append, List.nil_append]
  rfl

end Replies

-- The attributes within the length that a reply declares.
def declaredAttributes (reply : List UInt8) : List UInt8 :=
  (reply.drop 3).take (reply.getD 2 0).toNat

-- Two of the three replies carry the build time and the board revision, two the
-- unit serial.
structure RepliesAgree (attributes deviceInfo string : List UInt8) : Prop where
  firmwareBuildTime : attributeBytes Attribute.firmwareBuildTime (declaredAttributes attributes) =
    some ((deviceInfo.drop 4).take 4)
  boardRevision : attributeBytes Attribute.boardRevision (declaredAttributes attributes) =
    some ((deviceInfo.drop 8).take 4)
  unitSerial : untilNul ((deviceInfo.drop 28).take 16) = untilNul (string.drop 4)

theorem declaredAttributes_reply (fs : FeatureState) :
    declaredAttributes ([featuresReportId, Command.getAttributesValues, 30] ++ attributesReply fs ++
      List.replicate 31 0) = attributesReply fs := by
  have hlen := attributesReply_length fs
  have hdeclared : ([featuresReportId, Command.getAttributesValues, 30] ++ attributesReply fs ++
      List.replicate 31 0).getD 2 0 = 30 := rfl
  have hthirty : (30 : UInt8).toNat = 30 := rfl
  have hheader : [featuresReportId, Command.getAttributesValues, 30].length = 3 := rfl
  rw [declaredAttributes, hdeclared, hthirty, List.append_assoc, List.drop_left' hheader,
    List.take_left' hlen]

theorem deviceInfo_serial (fs : FeatureState) (zeros : Nat) :
    (([featuresReportId, Command.getDeviceInfo, 41, 0] ++ le32 fs.attrs.firmwareBuildTime ++
      le32 fs.attrs.boardRevision ++ field16 fs.buildId.toList ++ field16 fs.unitSerial.toList ++
        List.replicate zeros 0).drop 28).take 16 = field16 fs.unitSerial.toList := by
  rw [List.append_assoc, List.drop_left' (by simp [field16_length, le32, le16]),
    List.take_left' (field16_length _)]

theorem replies_agree {fs₁ fs₂ fs₃ : FeatureState} (h₂ : fs₂.identity = fs₁.identity)
    (h₃ : fs₃.identity = fs₁.identity) (hok : IdentityOk fs₁.identity)
    {attributes deviceInfo string : Option (List UInt8)} {p q r : List UInt8}
    (hattributes : parseFeature attributes = some (Command.getAttributesValues, p))
    (hdeviceInfo : parseFeature deviceInfo = some (Command.getDeviceInfo, q))
    (hsub : q.headD 0 = 0)
    (hstring : parseFeature string = some (Command.getStringAttribute, r))
    (hunit : r.headD stringAttrUnitSerial ≠ stringAttrBoardSerial) :
    ∃ ra rd rs, replyTo fs₁ attributes = some ra ∧ replyTo fs₂ deviceInfo = some rd ∧
      replyTo fs₃ string = some rs ∧ RepliesAgree ra rd rs := by
  have hattrs : fs₂.attrs = fs₁.attrs := congrArg Identity.attrs h₂
  have hserial : fs₂.unitSerial = fs₁.unitSerial := congrArg Identity.unitSerial h₂
  have hserial₃ : fs₃.unitSerial = fs₁.unitSerial := congrArg Identity.unitSerial h₃
  have hok₃ : TextOk fs₃.unitSerial := hserial₃ ▸ hok.unitSerial
  obtain ⟨zeros, hrd⟩ := replyTo_deviceInfo fs₂ hdeviceInfo hsub
  obtain ⟨zeros', hrs⟩ := replyTo_string fs₃ hstring hok₃ hunit
  refine ⟨_, _, _, replyTo_attributes hattributes, hrd, hrs, ?_, ?_, ?_⟩
  · rw [declaredAttributes_reply, attributesReply_firmwareBuildTime, hattrs]
    rfl
  · rw [declaredAttributes_reply, attributesReply_boardRevision, hattrs]
    rfl
  · have hdrop := deviceInfo_serial fs₂ zeros
    rw [hdrop, untilNul_field16 (hserial ▸ hok.unitSerial), hserial]
    have hstring : ∀ front : List UInt8, front.length = 4 →
        (front ++ untilNul fs₃.unitSerial.toList ++ List.replicate (zeros' + 1) 0).drop 4 =
          untilNul fs₃.unitSerial.toList ++ List.replicate (zeros' + 1) 0 := by
      intro front hfront
      rw [List.append_assoc, List.drop_left' hfront]
    rw [hstring _ rfl, untilNul_untilNul_append, hserial₃]

section Flags

theorem and_or_right (a b c : UInt32) : (a ||| b) &&& c = (a &&& c) ||| (b &&& c) :=
  UInt32.toBitVec_inj.1 BitVec.and_or_distrib_right

theorem if_and (applies : Bool) (flag mask : UInt32) :
    (if applies then flag else 0) &&& mask = if applies then flag &&& mask else 0 := by
  cases applies <;> simp

end Flags

-- A text is replaced when its flag is set and its characters are printable.
def textApplies (request : SteamControllerAttributesRequest) (flag : UInt32)
    (chars : Vector UInt8 16) : Bool :=
  request.flags &&& flag != 0 && printableAttributeString chars

-- The flags that took effect, seen through a mask.
theorem applied_and (request : SteamControllerAttributesRequest) (fs : FeatureState)
    (mask : UInt32) :
    (applyAttributes request fs).2 &&& mask = (request.flags &&& (0x0F &&& mask)) |||
      (if textApplies request AttrUpdate.buildId request.buildId then
        AttrUpdate.buildId &&& mask else 0) |||
      (if textApplies request AttrUpdate.serials request.unitSerial ||
          textApplies request AttrUpdate.serials request.boardSerial then
        AttrUpdate.serials &&& mask else 0) := by
  have hnumbers : AttrUpdate.firmwareBuildTime ||| AttrUpdate.bootloaderBuildTime |||
      AttrUpdate.boardRevision ||| AttrUpdate.capabilities = 0x0F := rfl
  simp only [applyAttributes, textApplies, hnumbers, and_or_right, if_and, UInt32.and_assoc]
  rfl

-- What one update does to the identity, and what its answer says of it.
structure UpdateOk (request : SteamControllerAttributesRequest) (old new : Identity)
    (applied : UInt32) : Prop where
  attrs : new.attrs = { old.attrs with
    firmwareBuildTime := if flagged request AttrUpdate.firmwareBuildTime then
      request.firmwareBuildTime else old.attrs.firmwareBuildTime
    bootloaderBuildTime := if flagged request AttrUpdate.bootloaderBuildTime then
      request.bootloaderBuildTime else old.attrs.bootloaderBuildTime
    boardRevision := if flagged request AttrUpdate.boardRevision then
      request.boardRevision else old.attrs.boardRevision
    capabilities := if flagged request AttrUpdate.capabilities then
      request.capabilities else old.attrs.capabilities }
  buildId : new.buildId.toList =
    if textApplies request AttrUpdate.buildId request.buildId then
      shortened request.buildId else old.buildId.toList
  unitSerial : new.unitSerial.toList =
    if textApplies request AttrUpdate.serials request.unitSerial then
      shortened request.unitSerial else old.unitSerial.toList
  boardSerial : new.boardSerial.toList =
    if textApplies request AttrUpdate.serials request.boardSerial then
      shortened request.boardSerial else old.boardSerial.toList
  appliedNumber : ∀ flag ∈ [AttrUpdate.firmwareBuildTime, AttrUpdate.bootloaderBuildTime,
    AttrUpdate.boardRevision, AttrUpdate.capabilities], applied &&& flag ≠ 0 ↔ flagged request flag
  appliedBuildId : applied &&& AttrUpdate.buildId ≠ 0 ↔
    textApplies request AttrUpdate.buildId request.buildId
  appliedSerials : applied &&& AttrUpdate.serials ≠ 0 ↔
    textApplies request AttrUpdate.serials request.unitSerial ∨
      textApplies request AttrUpdate.serials request.boardSerial
  appliedOnly : applied &&& ~~~(0x0F ||| AttrUpdate.buildId ||| AttrUpdate.serials) = 0

theorem applyAttributes_updateOk (request : SteamControllerAttributesRequest) (fs : FeatureState) :
    UpdateOk request fs.identity (applyAttributes request fs).1.identity
      (applyAttributes request fs).2 := by
  have htext : ∀ (applies : Bool) (chars old : Vector UInt8 16),
      (if applies then storeAttributeString chars else old).toList =
        if applies then shortened chars else old.toList := by
    intro applies chars old
    cases applies
    · rfl
    · exact store_toList chars
  refine ⟨applyAttributes_attrs request fs, htext _ _ _, htext _ _ _, htext _ _ _,
    fun flag hflag => ?_, ?_, ?_, ?_⟩
  · have hbits : 0x0F &&& flag = flag ∧ AttrUpdate.buildId &&& flag = 0 ∧
        AttrUpdate.serials &&& flag = 0 := by
      revert flag
      exact forall_mem_of_all (by decide)
    obtain ⟨hnumber, hbuild, hserials⟩ := hbits
    rw [applied_and, hnumber, hbuild, hserials]
    simp [flagged]
  · have hbits : 0x0F &&& AttrUpdate.buildId = 0 ∧ AttrUpdate.serials &&& AttrUpdate.buildId = 0 ∧
        AttrUpdate.buildId ≠ 0 := by decide
    simp [applied_and, hbits]
  · have hbits : 0x0F &&& AttrUpdate.serials = 0 ∧ AttrUpdate.buildId &&& AttrUpdate.serials = 0 ∧
        AttrUpdate.serials ≠ 0 := by decide
    rw [applied_and]
    cases textApplies request AttrUpdate.serials request.unitSerial <;> simp [hbits]
  · have hbits : 0x0F &&& ~~~(0x0F ||| AttrUpdate.buildId ||| AttrUpdate.serials) = 0 ∧
        AttrUpdate.buildId &&& ~~~(0x0F ||| AttrUpdate.buildId ||| AttrUpdate.serials) = 0 ∧
        AttrUpdate.serials &&& ~~~(0x0F ||| AttrUpdate.buildId ||| AttrUpdate.serials) = 0 := by
      decide
    rw [applied_and, hbits.1, hbits.2.1, hbits.2.2]
    simp

-- What holds of the identity in a state: it is well formed, every update changes what
-- it names and nothing else, and the three replies tell the same, whatever transfers
-- stand between them.
structure IdentityConsistent (fs : FeatureState) : Prop where
  wellFormed : IdentityOk fs.identity
  update : ∀ request, UpdateOk request fs.identity (applyAttributes request fs).1.identity
    (applyAttributes request fs).2
  replies : ∀ (before₁ before₂ before₃ : List (Option (List UInt8)))
    (attributes deviceInfo string : Option (List UInt8)) (p q r : List UInt8),
    parseFeature attributes = some (Command.getAttributesValues, p) →
    parseFeature deviceInfo = some (Command.getDeviceInfo, q) → q.headD 0 = 0 →
    parseFeature string = some (Command.getStringAttribute, r) →
    r.headD stringAttrUnitSerial ≠ stringAttrBoardSerial →
    ∃ ra rd rs, replyTo (fs.runIdentity (before₁.map .transfer)) attributes = some ra ∧
      replyTo (fs.runIdentity (before₂.map .transfer)) deviceInfo = some rd ∧
      replyTo (fs.runIdentity (before₃.map .transfer)) string = some rs ∧ RepliesAgree ra rd rs

theorem identity_consistent (ops : List IdentityOp) :
    IdentityConsistent (FeatureState.initial.runIdentity ops) := by
  have hok := IdentityOk.initial.runIdentity ops
  refine ⟨hok, fun request => applyAttributes_updateOk request _, ?_⟩
  intro before₁ before₂ before₃ attributes deviceInfo string p q r hattributes hdeviceInfo hsub
    hstring hunit
  have h₁ := FeatureState.identity_transfers (FeatureState.initial.runIdentity ops) before₁
  have h₂ := FeatureState.identity_transfers (FeatureState.initial.runIdentity ops) before₂
  have h₃ := FeatureState.identity_transfers (FeatureState.initial.runIdentity ops) before₃
  exact replies_agree (h₂.trans h₁.symm) (h₃.trans h₁.symm) (h₁ ▸ hok) hattributes hdeviceInfo
    hsub hstring hunit

end LibVirtualGamepad.Sc26Usb
