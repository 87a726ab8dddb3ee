import LibVirtualGamepad.Sc26Usb.Feature

-- The reply report, and what a command of each reading kind puts in it.
namespace LibVirtualGamepad.Sc26Usb

variable {fs : FeatureState}

theorem reply_answer (fs : FeatureState) (type : UInt8) (length : Nat) (out : List UInt8)
    (h : out.length ≤ replyCapacity) :
    (fs.answer type length out).reply.toList =
      [featuresReportId, type, UInt8.ofNat length] ++ out ++
        List.replicate (replyCapacity - out.length) 0 := by
  have hcapacity : replyCapacity = 61 := rfl
  simp only [FeatureState.answer, List.take_of_length_le h]
  apply List.ext_getElem
  · simp only [Vector.length_toList, List.length_append, List.length_cons, List.length_nil,
      List.length_replicate]
    have hsize : featureReportSize = 64 := rfl
    omega
  · intro i hi _
    have hi' : i < 64 := by simpa using hi
    simp only [Vector.getElem_toList, Vector.getElem_ofFn]
    by_cases hlt : i < ([featuresReportId, type, UInt8.ofNat length] ++ out).length
    · rw [List.getD_eq_getElem?_getD, List.getElem?_eq_getElem hlt, Option.getD_some,
        List.getElem_append_left hlt]
    · have hge := Nat.le_of_not_lt hlt
      rw [List.getElem_append_right hge, List.getElem_replicate, List.getD_eq_getElem?_getD,
        List.getElem?_eq_none hge, Option.getD_none]

-- The report a host reads after a command that filled the reply in.
theorem getFeature_answer (fs : FeatureState) (type : UInt8) (length : Nat) (out : List UInt8)
    (h : out.length ≤ replyCapacity) :
    getFeature featureReportSize (fs.answer type length out) =
      some ([featuresReportId, type, UInt8.ofNat length] ++ out ++
        List.replicate (replyCapacity - out.length) 0) := by
  simp only [getFeature, Nat.lt_irrefl, if_false, Nat.sub_self, List.replicate_zero,
    List.append_nil, reply_answer fs type length out h]
  rfl

theorem field16_length (chars : List UInt8) : (field16 chars).length = 16 := by
  have hle := List.length_take_le 16 (untilNul chars)
  simp only [field16, List.length_append, List.length_replicate]
  omega

theorem runCommand_getAttributes (payload : List UInt8) :
    runCommand fs Command.getAttributesValues payload =
      fs.answer Command.getAttributesValues (attributesReply fs).length (attributesReply fs) := by
  unfold runCommand
  rw [if_neg (by decide), if_neg (by decide), if_neg (by decide), if_neg (by decide), if_pos rfl]

theorem runCommand_getString (payload : List UInt8) :
    runCommand fs Command.getStringAttribute payload =
      fs.answer Command.getStringAttribute stringAttrReplyLength (stringReply fs payload) := by
  unfold runCommand
  rw [if_neg (by decide), if_neg (by decide), if_neg (by decide), if_neg (by decide),
    if_neg (by decide), if_pos rfl]

theorem runCommand_getDeviceInfo (payload : List UInt8) :
    runCommand fs Command.getDeviceInfo payload =
      fs.answer Command.getDeviceInfo (deviceInfoReply fs payload).1
        (deviceInfoReply fs payload).2 := by
  unfold runCommand
  rw [if_neg (by decide), if_neg (by decide), if_neg (by decide), if_neg (by decide),
    if_neg (by decide), if_neg (by decide), if_neg (by decide), if_neg (by decide), if_pos rfl]

end LibVirtualGamepad.Sc26Usb
