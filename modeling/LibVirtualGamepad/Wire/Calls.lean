import LibVirtualGamepad.Driver.ErrorLadder
import LibVirtualGamepad.Wire.Client

-- The driver reads out of a control what the caller of the library put into it, and
-- the library refuses nothing that the driver would have carried out.
namespace LibVirtualGamepad

open Wire Client

section Issue

variable {client : State} {call : Call} {c : DeviceControl}

theorem send_eq_ok {control : Control} {input : List UInt8} {outputLength : Nat} :
    client.send control input outputLength = .ok c ↔
      client.connected = true ∧ c = ⟨control.code, input, outputLength⟩ := by
  unfold State.send
  cases client.connected with
  | true => simp [eq_comm]
  | false => simp

theorem submit_eq_ok {α : Type} {control : Control} {x : Layout α} {header : RequestHeader}
    {input : α} {clear : Bool} (h : client.submit control x header input clear = .ok c) :
    clear = true ∧ c = ⟨control.code, framed x input, 0⟩ := by
  unfold State.submit at h
  split at h
  · cases h
  · rename_i hvalid
    simp only [Bool.or_eq_true, Bool.not_eq_true', not_or, Bool.not_eq_false] at hvalid
    obtain ⟨hheader, hclear⟩ := hvalid
    obtain ⟨-, rfl⟩ := send_eq_ok.1 h
    simp only [validInput, Bool.and_eq_true, beq_iff_eq] at hheader
    obtain ⟨⟨hsize, hversion⟩, hreserved⟩ := hheader
    have hmade : header = makeHeader (headerBytes + x.size) := by
      cases header with
      | mk size version reserved =>
        simp only at hsize hversion hreserved
        rw [makeHeader, hsize, hversion, hreserved]
    exact ⟨hclear, by rw [hmade, framed]⟩

theorem valid_of_validKeyboardMouse {input : KeyboardMouse.Request}
    (h : validKeyboardMouse input = true) : input.valid = true := by
  cases input with
  | absolute input => exact h
  | _ =>
    simp only [validKeyboardMouse, Bool.and_eq_true] at h
    grind

-- The control of a call is the control of its request, whose fields are in order.
theorem issue_eq_ok (h : client.issue call = .ok c) :
    c.code = call.request.control.code ∧ c.input = call.request.bytes ∧ call.request.Fits ∧
      call.request.TakesOutput c.outputLength ∧ call.request.reservedClear = true := by
  cases call with
  | queryInfo =>
    obtain ⟨-, rfl⟩ := send_eq_ok.1 h
    exact ⟨rfl, rfl, trivial, Nat.le_refl _, rfl⟩
  | createController controllerId requested =>
    simp only [State.issue] at h
    split at h
    · cases h
    split at h
    · cases h
    split at h
    · cases h
    obtain ⟨-, rfl⟩ := send_eq_ok.1 h
    refine ⟨rfl, rfl, ?_, trivial, rfl⟩
    exact fits_createControllerRequest.2 (by rw [Profile.word_ofWord])
  | destroyController controllerId | setSteamControllerAttributes controllerId attributes =>
    simp only [State.issue] at h
    split at h
    · cases h
    split at h
    · cases h
    obtain ⟨-, rfl⟩ := send_eq_ok.1 h
    exact ⟨rfl, rfl, trivial, trivial, rfl⟩
  | submitInputState header input | submitTouchState header input
  | submitMotionState header input | submitBatteryState header input =>
    obtain ⟨hclear, rfl⟩ := submit_eq_ok h
    exact ⟨rfl, rfl, trivial, trivial, hclear⟩
  | pollFeedback place controllerId =>
    simp only [State.issue] at h
    split at h
    · cases h
    obtain ⟨-, rfl⟩ := send_eq_ok.1 h
    exact ⟨rfl, rfl, trivial, Nat.le_refl _, rfl⟩
  | queryFeedbackCounters place controllerId =>
    simp only [State.issue] at h
    split at h
    · cases h
    split at h
    · cases h
    obtain ⟨-, rfl⟩ := send_eq_ok.1 h
    exact ⟨rfl, rfl, trivial, Nat.le_refl _, rfl⟩
  | queryKeyboardMouse place =>
    simp only [State.issue] at h
    split at h
    · cases h
    obtain ⟨-, rfl⟩ := send_eq_ok.1 h
    exact ⟨rfl, rfl, trivial, rfl, rfl⟩
  | openKeyboardMouse | closeKeyboardMouse | abortKeyboardMouse =>
    obtain ⟨-, rfl⟩ := send_eq_ok.1 h
    exact ⟨rfl, rfl, trivial, rfl, rfl⟩
  | submitKeyboardMouse input =>
    simp only [State.issue] at h
    split at h
    · cases h
    rename_i hvalid
    have hfits : input.valid = true := valid_of_validKeyboardMouse (by simpa using hvalid)
    cases input <;>
      obtain ⟨-, rfl⟩ := send_eq_ok.1 h <;> exact ⟨rfl, rfl, hfits, rfl, rfl⟩

-- The driver reads the caller's own request out of what the library sends.
theorem calls_delivered (client : State) (call : Call) (c : DeviceControl) (owner : File)
    (authorized : Bool) (h : client.issue call = .ok c)
    (hauthorized : call.request.control.isKeyboardMouse = true → authorized = true) :
    evtIoDeviceControl (some owner) authorized c = .ok call.request ∧
      call.request.reservedClear = true := by
  obtain ⟨hcode, hinput, hfits, hlength, hclear⟩ := issue_eq_ok h
  exact ⟨evtIoDeviceControl_eq_ok.2 ⟨rfl, hcode, hinput, hfits, hlength, hauthorized⟩, hclear⟩

-- A connection to this driver submits two fingers' touch.
theorem calls_delivered_touch :
    evtIoDeviceControl (some 1) false
        ⟨Control.submitTouchState.code,
          framed touchStateRequest ⟨3, 1, 1, 100, 200, 65535, 0⟩, 0⟩ =
      .ok (.touch ⟨3, 1, 1, 100, 200, 65535, 0⟩) :=
  (calls_delivered ⟨true, fillQueryInfo⟩
    (.submitTouchState (makeHeader 22) ⟨3, 1, 1, 100, 200, 65535, 0⟩) _ 1 false rfl
    (fun hkm => by (cases hkm))).1

end Issue

section Checks

open KeyboardMouse (Endpoint KeyboardRequest ButtonRequest ConsumerRequest RelativeRequest
  AbsoluteRequest)

variable {endpoint : Endpoint} {owner : KeyboardMouse.OwnerToken}

theorem keyboard_invalid_iff (event : KeyboardRequest) :
    (endpoint.submitKeyboard event).1 = .invalid ↔
      ¬(event.reserved = 0 ∧ event.pressed ≤ 1 ∧ 4 ≤ event.usage ∧ event.usage ≤ 0xE7) := by
  have hpressed : event.pressed ≤ 1 ↔ ¬1 < event.pressed.toNat := UInt8.not_lt.symm
  have husage : (4 ≤ event.usage ∧ event.usage ≤ 0xE7) ↔
      (4 ≤ event.usage.toNat ∧ event.usage.toNat ≤ 0xE7) := Iff.rfl
  unfold Endpoint.submitKeyboard
  split
  · rename_i hfields
    simp only [true_iff]
    rintro ⟨hreserved, hlow, -⟩
    exact hfields.elim (fun h => h hreserved) (hpressed.1 hlow)
  · rename_i hfields
    simp only [not_or, ne_eq, Decidable.not_not] at hfields
    rw [husage]
    cases hbit : Endpoint.keyBit event.usage with
    | none =>
      simp only [true_iff]
      rintro ⟨-, -, hrange⟩
      simp [Endpoint.keyBit, hrange] at hbit
    | some place =>
      have hrange : 4 ≤ event.usage.toNat ∧ event.usage.toNat ≤ 0xE7 := by
        by_contra hout
        simp [Endpoint.keyBit, hout] at hbit
      have hnot : ¬¬(event.reserved = 0 ∧ event.pressed ≤ 1 ∧
          4 ≤ event.usage.toNat ∧ event.usage.toNat ≤ 0xE7) :=
        not_not_intro ⟨hfields.1, hpressed.2 hfields.2, hrange⟩
      rw [iff_false_right hnot]
      dsimp only
      repeat' split
      all_goals simp

theorem button_invalid_iff (event : ButtonRequest) :
    (endpoint.submitButton event).1 = .invalid ↔
      ¬(event.reserved = 0 ∧ event.pressed ≤ 1 ∧ 1 ≤ event.button ∧ event.button ≤ 5) := by
  have hpressed : event.pressed ≤ 1 ↔ ¬1 < event.pressed.toNat := UInt8.not_lt.symm
  have hlow : 1 ≤ event.button ↔ ¬event.button.toNat < 1 := UInt8.not_lt.symm
  have hhigh : event.button ≤ 5 ↔ ¬5 < event.button.toNat := UInt8.not_lt.symm
  rw [hpressed, hlow, hhigh]
  unfold Endpoint.submitButton
  split
  · rename_i hfields
    simp only [true_iff]
    rintro ⟨hreserved, hp, hl, hh⟩
    obtain h | h | h | h := hfields
    · exact h hreserved
    · exact hp h
    · exact hl h
    · exact hh h
  · rename_i hfields
    simp only [not_or, ne_eq, Decidable.not_not] at hfields
    rw [iff_false_right (not_not_intro hfields)]
    dsimp only
    repeat' split
    all_goals simp

theorem consumerBit_eq_none {usage : UInt16} : Endpoint.consumerBit usage = none ↔
    [0x00E2, 0x00E9, 0x00EA, 0x00CD, 0x00B5, 0x00B6, 0x00B7].contains usage = false := by
  unfold Endpoint.consumerBit
  repeat' split
  all_goals simp_all

theorem consumer_invalid_iff (event : ConsumerRequest) :
    (endpoint.submitConsumer event).1 = .invalid ↔
      ¬(event.reserved = 0 ∧ event.pressed ≤ 1 ∧
        [0x00E2, 0x00E9, 0x00EA, 0x00CD, 0x00B5, 0x00B6, 0x00B7].contains event.usage = true) := by
  have hpressed : event.pressed ≤ 1 ↔ ¬1 < event.pressed.toNat := UInt8.not_lt.symm
  rw [hpressed]
  unfold Endpoint.submitConsumer
  split
  · rename_i hfields
    simp only [true_iff]
    rintro ⟨hreserved, hp, -⟩
    exact hfields.elim (fun h => h hreserved) hp
  · rename_i hfields
    simp only [not_or, ne_eq, Decidable.not_not] at hfields
    cases hbit : Endpoint.consumerBit event.usage with
    | none =>
      simp only [true_iff, consumerBit_eq_none.1 hbit]
      rintro ⟨-, -, hnever⟩
      cases hnever
    | some bit =>
      have hknown : [0x00E2, 0x00E9, 0x00EA, 0x00CD, 0x00B5, 0x00B6, 0x00B7].contains event.usage =
          true := by
        by_contra hunknown
        rw [consumerBit_eq_none.2 (by simpa using hunknown)] at hbit
        cases hbit
      rw [iff_false_right (not_not_intro ⟨hfields.1, hfields.2, hknown⟩)]
      dsimp only
      repeat' split
      all_goals simp

theorem relative_invalid_iff (event : RelativeRequest) :
    (endpoint.submitRelative event).1 = .invalid ↔
      ¬(event.reserved = 0 ∧ event.wheel ≠ -128 ∧ event.pan ≠ -128) := by
  unfold Endpoint.submitRelative
  split
  · rename_i hfields
    simp only [true_iff]
    rintro ⟨hreserved, hwheel, hpan⟩
    obtain h | h | h := hfields
    · exact h hreserved
    · exact hwheel h
    · exact hpan h
  · rename_i hfields
    simp only [not_or, ne_eq, Decidable.not_not] at hfields
    rw [iff_false_right (not_not_intro hfields)]
    repeat' split
    all_goals simp

theorem absolute_not_invalid (event : AbsoluteRequest) :
    (endpoint.submitAbsolute event).1 ≠ .invalid := by
  unfold Endpoint.submitAbsolute
  repeat' split
  all_goals simp

-- The library refuses a keyboard or mouse event exactly when the endpoint would.
theorem submit_invalid_iff (h : endpoint.admission owner = .accepted)
    (event : KeyboardMouse.Request) :
    (endpoint.submit owner event).1 = .invalid ↔ validKeyboardMouse event = false := by
  have hadmitted : ¬endpoint.admission owner ≠ .accepted := not_not_intro h
  simp only [Endpoint.submit, if_neg hadmitted]
  cases hvalid : event.valid with
  | false =>
    simp only [Bool.not_false, if_true, true_iff]
    by_contra hother
    rw [valid_of_validKeyboardMouse (by simpa using hother)] at hvalid
    cases hvalid
  | true =>
    simp only [Bool.not_true, Bool.false_eq_true, if_false]
    cases event with
    | keyboard event =>
      simp only [keyboard_invalid_iff, validKeyboardMouse, hvalid, Bool.true_and]
      simp only [← Bool.not_eq_true, Bool.and_eq_true, beq_iff_eq, decide_eq_true_eq, and_assoc]
    | consumer event =>
      simp only [consumer_invalid_iff, validKeyboardMouse, hvalid, Bool.true_and]
      simp only [← Bool.not_eq_true, Bool.and_eq_true, beq_iff_eq, decide_eq_true_eq, and_assoc]
    | button event =>
      simp only [button_invalid_iff, validKeyboardMouse, hvalid, Bool.true_and]
      simp only [← Bool.not_eq_true, Bool.and_eq_true, beq_iff_eq, decide_eq_true_eq, and_assoc]
    | relative event =>
      simp only [relative_invalid_iff, validKeyboardMouse, hvalid, Bool.true_and]
      simp only [← Bool.not_eq_true, Bool.and_eq_true, beq_iff_eq, bne_iff_ne, and_assoc]
    | absolute event =>
      simp only [absolute_not_invalid, validKeyboardMouse, hvalid, Bool.true_eq_false]

-- The profiles that the handshake announces are the ones that may be created.
theorem announced_iff (raw : UInt16) :
    availableProfiles &&& (Profile.ofWord raw).bit = 0 ↔ findProfile (Profile.ofWord raw) = none := by
  cases hprofile : Profile.ofWord raw with
  | other word =>
    have hword : word = raw := by
      have hback := Profile.word_ofWord raw
      rwa [hprofile] at hback
    subst hword
    simp only [findProfile, iff_true]
    by_cases hrange : word = 0 ∨ 32 < word.toNat
    · simp only [Profile.bit, if_pos hrange]
      rfl
    · have hlow : 9 < word.toNat := by
        by_contra hnot
        have hall : ∀ n : Fin 10, n.val ≠ 0 →
            Profile.ofWord (UInt16.ofNat n.val) ≠ .other (UInt16.ofNat n.val) := by decide
        refine hall ⟨word.toNat, by omega⟩ (fun hzero => hrange (.inl ?_)) ?_
        · exact UInt16.toNat_inj.1 hzero
        · rw [UInt16.ofNat_toNat]
          exact hprofile
      have hall : ∀ n : Fin 33, 9 < n.val →
          availableProfiles &&& (Profile.other (UInt16.ofNat n.val)).bit = 0 := by decide +kernel
      have hbit := hall ⟨word.toNat, by omega⟩ hlow
      rwa [UInt16.ofNat_toNat] at hbit
  | _ =>
    simp only [findProfile, Profile.bit, reduceCtorEq, iff_false, iff_true]
    decide +kernel

theorem inRange_iff (controllerId : UInt32) :
    fillQueryInfo.maximumControllers ≤ controllerId ↔ ControllerId.ofRequest controllerId = none := by
  have hmaximum : fillQueryInfo.maximumControllers ≤ controllerId ↔
      maxControllers ≤ controllerId.toNat := Iff.rfl
  rw [hmaximum]
  unfold ControllerId.ofRequest
  split
  · simp only [reduceCtorEq, iff_false]
    omega
  · simp only [iff_true]
    omega

theorem sendSubmission_connected (event : KeyboardMouse.Request) :
    ∃ c, (⟨true, fillQueryInfo⟩ : State).sendSubmission event = .ok c := by
  cases event <;> exact ⟨_, rfl⟩

-- What the library answers by itself, connected to this driver, the driver would answer: the
-- slot's number and the profile of a creation, the slot's number of a destruction and of an
-- attribute update, and the fields of an event that a running source looks at. A slot of
-- another profile is left to the driver.
theorem client_checks :
    (∀ controllerId requested owner,
      ((⟨true, fillQueryInfo⟩ : State).issue (.createController controllerId requested) =
          .error errorInvalidParameter ↔
        (Call.createController controllerId requested).request.program owner =
          [.reply .invalidParameter .none]) ∧
      ((⟨true, fillQueryInfo⟩ : State).issue (.createController controllerId requested) =
          .error errorNotSupported ↔
        (Call.createController controllerId requested).request.program owner =
          [.reply .notSupported .none])) ∧
    (∀ controllerId owner,
      ((⟨true, fillQueryInfo⟩ : State).issue (.destroyController controllerId) =
          .error errorInvalidParameter ↔
        (Call.destroyController controllerId).request.program owner =
          [.reply .invalidParameter .none])) ∧
    (∀ controllerId attributes owner,
      ((⟨true, fillQueryInfo⟩ : State).issue (.setSteamControllerAttributes controllerId attributes) =
          .error errorInvalidParameter ↔
        (Call.setSteamControllerAttributes controllerId attributes).request.program owner =
          [.reply .invalidParameter .none]) ∧
      (⟨true, fillQueryInfo⟩ : State).issue (.setSteamControllerAttributes controllerId attributes) ≠
        .error errorNotSupported) ∧
    ∀ event (endpoint : Endpoint) (owner : KeyboardMouse.OwnerToken),
      endpoint.admission owner = .accepted →
        ((⟨true, fillQueryInfo⟩ : State).issue (.submitKeyboardMouse event) =
            .error errorInvalidParameter ↔
          (endpoint.submit owner event).1 = .invalid) := by
  refine ⟨fun controllerId requested owner => ?_, fun controllerId owner => ?_,
    fun controllerId attributes owner => ?_, fun event endpoint owner hadmitted => ?_⟩
  · have hmask : fillQueryInfo.availableProfiles = availableProfiles := rfl
    simp only [State.issue, State.send, Bool.not_true, Bool.false_eq_true, if_false, if_true,
      inRange_iff, hmask, announced_iff, Call.request, Request.program, withSlot]
    cases hid : ControllerId.ofRequest controllerId with
    | none => simp [errorInvalidParameter, errorNotSupported]
    | some id =>
      cases hprofile : findProfile (Profile.ofWord requested) with
      | none => simp [errorInvalidParameter, errorNotSupported]
      | some definition => simp
  · simp only [State.issue, State.send, Bool.not_true, Bool.false_eq_true, if_false, if_true,
      inRange_iff, Call.request, Request.program, withSlot]
    cases hid : ControllerId.ofRequest controllerId with
    | none => simp
    | some id => simp
  · have hsame : (attributes.request controllerId).controllerId = controllerId := rfl
    simp only [State.issue, State.send, Bool.not_true, Bool.false_eq_true, if_false, if_true,
      inRange_iff, Call.request, Request.program, withSlot, hsame]
    cases hid : ControllerId.ofRequest controllerId with
    | none => simp [errorInvalidParameter, errorNotSupported]
    | some id => simp
  · rw [submit_invalid_iff hadmitted]
    simp only [State.issue]
    cases hvalid : validKeyboardMouse event with
    | false => simp
    | true =>
      obtain ⟨c, hc⟩ := sendSubmission_connected event
      simp [hc]

end Checks

end LibVirtualGamepad
