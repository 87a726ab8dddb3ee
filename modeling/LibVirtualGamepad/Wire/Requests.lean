import LibVirtualGamepad.Wire.Dispatch

-- What the driver takes for a request is the buffer of that request and no other.
namespace LibVirtualGamepad

open Wire

section Retrieval

variable {α : Type} {c : DeviceControl} {status : NtStatus}

theorem retrieveInputBuffer_eq_ok {minimum : Nat} {raw : List UInt8} :
    c.retrieveInputBuffer minimum = .ok raw ↔ minimum ≤ c.input.length ∧ raw = c.input := by
  unfold DeviceControl.retrieveInputBuffer
  split
  · rename_i hshort
    simp only [reduceCtorEq, false_iff, not_and]
    omega
  · rename_i hlong
    simp only [Except.ok.injEq]
    exact ⟨fun h => ⟨by omega, h.symm⟩, fun h => h.2.symm⟩

theorem retrieveOutputBuffer_eq_ok {minimum : Nat} :
    c.retrieveOutputBuffer minimum = .ok () ↔ minimum ≤ c.outputLength := by
  unfold DeviceControl.retrieveOutputBuffer
  split
  · rename_i hshort
    simp only [reduceCtorEq, false_iff]
    omega
  · rename_i hlong
    simp only [true_iff]
    omega

theorem validRequest_iff {size : Nat} {bytes : List UInt8} :
    validRequest size bytes = true ↔
      bytes.length = size ∧ requestHeader.read bytes = makeHeader size := by
  simp only [validRequest, Bool.and_eq_true, beq_iff_eq]

theorem length_framed (x : Layout α) (a : α) : (framed x a).length = headerBytes + x.size := by
  rw [framed, List.length_append, requestHeader.length_write, x.length_write]
  rfl

-- A valid request of the size is the frame of what its body reads as.
theorem valid_eq_framed {x : Layout α} {bytes : List UInt8}
    (h : validRequest (headerBytes + x.size) bytes = true) :
    bytes = framed x (x.read (bytes.drop headerBytes)) := by
  obtain ⟨hsize, hheader⟩ := validRequest_iff.1 h
  have hlong : requestHeader.size ≤ bytes.length := by
    rw [hsize]
    exact Nat.le_add_right _ _
  have hfront : requestHeader.write (requestHeader.read bytes) = bytes.take headerBytes :=
    requestHeader.write_read bytes hlong
  have hlength : (bytes.drop headerBytes).length = x.size := by
    rw [List.length_drop, hsize]
    omega
  have hbody := x.write_read (bytes.drop headerBytes) (Nat.le_of_eq hlength.symm)
  rw [List.take_of_length_le (Nat.le_of_eq hlength)] at hbody
  rw [framed, ← hheader, hfront, hbody, List.take_append_drop]

theorem read_framed {x : Layout α} {a : α} (h : x.Fits a) :
    x.read ((framed x a).drop headerBytes) = a := by
  have hdrop : (framed x a).drop headerBytes = x.write a :=
    List.drop_left' (requestHeader.length_write _)
  have hread := x.read_write a [] h
  rw [List.append_nil] at hread
  rw [hdrop, hread]

theorem valid_framed (x : Layout α) (a : α) :
    validRequest (headerBytes + x.size) (framed x a) = true :=
  validRequest_iff.2 ⟨length_framed x a, requestHeader.read_write _ _ (full_requestHeader _)⟩

theorem retrieveRequest_eq_ok {x : Layout α} {a : α} :
    retrieveRequest x c = .ok a ↔ x.Fits a ∧ c.input = framed x a := by
  constructor
  · intro h
    simp only [retrieveRequest, bind, Except.bind] at h
    split at h
    · cases h
    · rename_i raw hraw
      obtain ⟨-, rfl⟩ := retrieveInputBuffer_eq_ok.1 hraw
      split at h
      · rename_i hvalid
        cases h
        exact ⟨x.fits_read _, valid_eq_framed hvalid⟩
      · cases h
  · rintro ⟨hfits, hinput⟩
    have hraw : c.retrieveInputBuffer headerBytes = .ok c.input := by
      refine retrieveInputBuffer_eq_ok.2 ⟨?_, rfl⟩
      rw [hinput, length_framed]
      exact Nat.le_add_right _ _
    have hvalid : validRequest (headerBytes + x.size) c.input = true := by
      rw [hinput]
      exact valid_framed x a
    simp only [retrieveRequest, hraw, bind, Except.bind, hvalid, if_true, Except.ok.injEq]
    rw [hinput]
    exact read_framed hfits

theorem retrieveKeyboardMouseRequest_eq_ok {x : Layout α} (hx : x.Full)
    {header : α → RequestHeader} {a : α} :
    retrieveKeyboardMouseRequest x header c = .ok a ↔
      KeyboardMouse.validHeader (UInt32.ofNat x.size) (header a) = true ∧ c.input = x.write a := by
  unfold retrieveKeyboardMouseRequest
  constructor
  · intro h
    split at h
    · cases h
    · rename_i hsize
      simp only [ne_eq, Decidable.not_not] at hsize
      dsimp only at h
      split at h
      · rename_i hvalid
        cases h
        have hwrite := x.write_read c.input (Nat.le_of_eq hsize.symm)
        rw [List.take_of_length_le (Nat.le_of_eq hsize)] at hwrite
        exact ⟨hvalid, hwrite.symm⟩
      · cases h
  · rintro ⟨hvalid, hinput⟩
    have hread := x.read_write a [] (hx a)
    rw [List.append_nil] at hread
    rw [hinput, if_neg (by simpa using x.length_write a)]
    dsimp only
    rw [hread, if_pos hvalid]

theorem valid_query {bytes : List UInt8} : validRequest headerBytes bytes = true ↔
    bytes = requestHeader.write (makeHeader headerBytes) := by
  constructor
  · intro h
    obtain ⟨hsize, hheader⟩ := validRequest_iff.1 h
    have hwrite := requestHeader.write_read bytes (Nat.le_of_eq hsize.symm)
    have htake : bytes.take requestHeader.size = bytes := List.take_of_length_le (Nat.le_of_eq hsize)
    rw [hheader, htake] at hwrite
    exact hwrite.symm
  · rintro rfl
    refine validRequest_iff.2 ⟨requestHeader.length_write _, ?_⟩
    have hread := requestHeader.read_write (makeHeader headerBytes) [] (full_requestHeader _)
    rwa [List.append_nil] at hread

theorem retrieveQuery_eq_ok {request : Request} : retrieveQuery c = .ok request ↔
    ∃ id, request = .query id ∧ c.input = request.bytes := by
  constructor
  · intro h
    simp only [retrieveQuery, bind, Except.bind] at h
    split at h
    · cases h
    · rename_i raw hraw
      obtain ⟨-, rfl⟩ := retrieveInputBuffer_eq_ok.1 hraw
      split at h
      · rename_i hvalid
        cases h
        exact ⟨none, rfl, valid_query.1 hvalid⟩
      · split at h
        · rename_i hvalid
          cases h
          exact ⟨some _, rfl, valid_eq_framed hvalid⟩
        · cases h
  · rintro ⟨id, rfl, hinput⟩
    cases id with
    | none =>
      have hvalid : validRequest headerBytes c.input = true := by
        rw [hinput]
        exact valid_query.2 rfl
      have hraw : c.retrieveInputBuffer headerBytes = .ok c.input :=
        retrieveInputBuffer_eq_ok.2 ⟨Nat.le_of_eq (validRequest_iff.1 hvalid).1.symm, rfl⟩
      simp only [retrieveQuery, hraw, bind, Except.bind, hvalid, if_true]
    | some id =>
      have hinput : c.input = framed Layout.u32 id := hinput
      have hlength := length_framed Layout.u32 id
      have hraw : c.retrieveInputBuffer headerBytes = .ok c.input := by
        refine retrieveInputBuffer_eq_ok.2 ⟨?_, rfl⟩
        rw [hinput, hlength]
        exact Nat.le_add_right _ _
      have hshort : validRequest headerBytes c.input = false := by
        rw [← Bool.not_eq_true, validRequest_iff, hinput, hlength]
        rintro ⟨hsize, -⟩
        cases hsize
      have hvalid : validRequest (headerBytes + Layout.u32.size) c.input = true := by
        rw [hinput]
        exact valid_framed Layout.u32 id
      simp only [retrieveQuery, hraw, bind, Except.bind, hshort, Bool.false_eq_true, if_false,
        hvalid, if_true, Except.ok.injEq, Request.query.injEq, Option.some.injEq]
      rw [hinput]
      exact read_framed (Layout.full_u32 id)

theorem validHeader_kmHeader {header : RequestHeader} :
    KeyboardMouse.validHeader (UInt32.ofNat requestHeader.size) header = true ↔
      header = Request.kmHeader := by
  obtain ⟨size, version, reserved⟩ := header
  simp only [KeyboardMouse.validHeader, Bool.and_eq_true, beq_iff_eq, Request.kmHeader,
    RequestHeader.mk.injEq, and_assoc]
  rfl

theorem retrieveControl_eq_ok {outputLength : Nat} {asked : KeyboardMouseRequest}
    {request : Request} : retrieveControl c outputLength asked = .ok request ↔
      request = .keyboardMouse asked ∧ c.outputLength = outputLength ∧
        c.input = requestHeader.write Request.kmHeader := by
  constructor
  · intro h
    simp only [retrieveControl, bind, Except.bind] at h
    split at h
    · cases h
    · rename_i header hretrieved
      obtain ⟨hvalid, hinput⟩ := (retrieveKeyboardMouseRequest_eq_ok full_requestHeader).1 hretrieved
      split at h
      · cases h
      · rename_i hlength
        cases h
        obtain rfl := validHeader_kmHeader.1 hvalid
        exact ⟨rfl, by simpa using hlength, hinput⟩
  · rintro ⟨rfl, hlength, hinput⟩
    have hretrieved : retrieveKeyboardMouseRequest requestHeader id c = .ok Request.kmHeader :=
      (retrieveKeyboardMouseRequest_eq_ok full_requestHeader).2 ⟨validHeader_kmHeader.2 rfl, hinput⟩
    simp only [retrieveControl, hretrieved, bind, Except.bind, hlength, ne_eq, not_true_eq_false,
      if_false]

theorem retrieveSubmission_eq_ok {x : Layout α} (hx : x.Full) {header : α → RequestHeader}
    {asked : α → KeyboardMouse.Request} {request : Request} :
    retrieveSubmission x header c asked = .ok request ↔
      ∃ a, request = .keyboardMouse (.submit (asked a)) ∧
        c.outputLength = kmSubmissionResponseBytes ∧
          KeyboardMouse.validHeader (UInt32.ofNat x.size) (header a) = true ∧
            c.input = x.write a := by
  constructor
  · intro h
    simp only [retrieveSubmission, bind, Except.bind] at h
    split at h
    · cases h
    · rename_i a hretrieved
      obtain ⟨hvalid, hinput⟩ := (retrieveKeyboardMouseRequest_eq_ok hx).1 hretrieved
      split at h
      · cases h
      · rename_i hlength
        cases h
        exact ⟨a, rfl, by simpa using hlength, hvalid, hinput⟩
  · rintro ⟨a, rfl, hlength, hvalid, hinput⟩
    have hretrieved : retrieveKeyboardMouseRequest x header c = .ok a :=
      (retrieveKeyboardMouseRequest_eq_ok hx).2 ⟨hvalid, hinput⟩
    simp only [retrieveSubmission, hretrieved, bind, Except.bind, hlength, ne_eq,
      not_true_eq_false, if_false]

theorem map_eq_ok {β : Type} {f : α → β} {r : Except NtStatus α} {b : β} :
    f <$> r = .ok b ↔ ∃ a, r = .ok a ∧ b = f a := by
  cases r with
  | error status => simp [Functor.map, Except.map]
  | ok a =>
    simp only [Functor.map, Except.map, Except.ok.injEq, exists_eq_left']
    exact eq_comm

end Retrieval

section Dispatch

variable {c : DeviceControl} {request : Request}

-- The keyboard and mouse controls, their caller authorized.
theorem dispatchKeyboardMouse_eq_ok {control : Control} (hcontrol : control.isKeyboardMouse = true) :
    dispatchKeyboardMouse c control = .ok request ↔
      control = request.control ∧ c.input = request.bytes ∧ request.Fits ∧
        request.TakesOutput c.outputLength := by
  constructor
  · intro h
    cases control with
    | kmQuery | kmOpen | kmClose | kmAbort =>
      obtain ⟨rfl, hlength, hinput⟩ := retrieveControl_eq_ok.1 h
      exact ⟨rfl, hinput, trivial, hlength⟩
    | kmKeyboard =>
      obtain ⟨a, rfl, hlength, hvalid, hinput⟩ :=
        (retrieveSubmission_eq_ok KeyboardMouse.full_keyboardRequest).1 h
      exact ⟨rfl, hinput, hvalid, hlength⟩
    | kmConsumer =>
      obtain ⟨a, rfl, hlength, hvalid, hinput⟩ :=
        (retrieveSubmission_eq_ok KeyboardMouse.full_consumerRequest).1 h
      exact ⟨rfl, hinput, hvalid, hlength⟩
    | kmButton =>
      obtain ⟨a, rfl, hlength, hvalid, hinput⟩ :=
        (retrieveSubmission_eq_ok KeyboardMouse.full_buttonRequest).1 h
      exact ⟨rfl, hinput, hvalid, hlength⟩
    | kmRelative =>
      obtain ⟨a, rfl, hlength, hvalid, hinput⟩ :=
        (retrieveSubmission_eq_ok KeyboardMouse.full_relativeRequest).1 h
      exact ⟨rfl, hinput, hvalid, hlength⟩
    | kmAbsolute =>
      obtain ⟨a, rfl, hlength, hvalid, hinput⟩ :=
        (retrieveSubmission_eq_ok KeyboardMouse.full_absoluteRequest).1 h
      exact ⟨rfl, hinput, hvalid, hlength⟩
    | _ => cases hcontrol
  · rintro ⟨rfl, hinput, hfits, hlength⟩
    cases request with
    | keyboardMouse asked =>
      cases asked with
      | query | openSource | close | abort =>
        exact retrieveControl_eq_ok.2 ⟨rfl, hlength, hinput⟩
      | submit event =>
        cases event with
        | keyboard event =>
          exact (retrieveSubmission_eq_ok KeyboardMouse.full_keyboardRequest).2
            ⟨event, rfl, hlength, hfits, hinput⟩
        | consumer event =>
          exact (retrieveSubmission_eq_ok KeyboardMouse.full_consumerRequest).2
            ⟨event, rfl, hlength, hfits, hinput⟩
        | button event =>
          exact (retrieveSubmission_eq_ok KeyboardMouse.full_buttonRequest).2
            ⟨event, rfl, hlength, hfits, hinput⟩
        | relative event =>
          exact (retrieveSubmission_eq_ok KeyboardMouse.full_relativeRequest).2
            ⟨event, rfl, hlength, hfits, hinput⟩
        | absolute event =>
          exact (retrieveSubmission_eq_ok KeyboardMouse.full_absoluteRequest).2
            ⟨event, rfl, hlength, hfits, hinput⟩
    | _ => cases hcontrol

-- A controller request without an answer of its own.
theorem mapped_eq_ok {α : Type} {x : Layout α} {f : α → Request} :
    f <$> retrieveRequest x c = .ok request ↔
      ∃ a, request = f a ∧ x.Fits a ∧ c.input = framed x a := by
  rw [map_eq_ok]
  constructor
  · rintro ⟨a, h, rfl⟩
    exact ⟨a, rfl, retrieveRequest_eq_ok.1 h⟩
  · rintro ⟨a, rfl, h⟩
    exact ⟨a, retrieveRequest_eq_ok.2 h, rfl⟩

theorem query_eq_ok : (do
      let request ← retrieveQuery c
      c.retrieveOutputBuffer queryInfoResponseBytes
      return request) = .ok request ↔
    ∃ id, request = .query id ∧ c.input = request.bytes ∧ queryInfoResponseBytes ≤ c.outputLength := by
  constructor
  · intro h
    simp only [bind, Except.bind] at h
    split at h
    · cases h
    · rename_i asked hasked
      obtain ⟨id, rfl, hinput⟩ := retrieveQuery_eq_ok.1 hasked
      split at h
      · cases h
      · rename_i hlength
        cases h
        exact ⟨id, rfl, hinput, retrieveOutputBuffer_eq_ok.1 hlength⟩
  · rintro ⟨id, rfl, hinput, hlength⟩
    simp only [retrieveQuery_eq_ok.2 ⟨id, rfl, hinput⟩, retrieveOutputBuffer_eq_ok.2 hlength, bind,
      Except.bind]
    rfl

theorem poll_eq_ok : (do
      let id ← retrieveRequest Layout.u32 c
      c.retrieveOutputBuffer feedbackEventBytes.toNat
      return Request.poll id) = .ok request ↔
    ∃ id, request = .poll id ∧ c.input = request.bytes ∧
      feedbackEventBytes.toNat ≤ c.outputLength := by
  constructor
  · intro h
    simp only [bind, Except.bind] at h
    split at h
    · cases h
    · rename_i id hid
      obtain ⟨-, hinput⟩ := retrieveRequest_eq_ok.1 hid
      split at h
      · cases h
      · rename_i hlength
        cases h
        exact ⟨id, rfl, hinput, retrieveOutputBuffer_eq_ok.1 hlength⟩
  · rintro ⟨id, rfl, hinput, hlength⟩
    simp only [retrieveRequest_eq_ok.2 ⟨Layout.full_u32 id, hinput⟩,
      retrieveOutputBuffer_eq_ok.2 hlength, bind, Except.bind]
    rfl

-- A control is taken for a request exactly when its buffer is the request's, the caller
-- has room for the answer and, for the keyboard and mouse, is authorized.
theorem evtIoDeviceControl_eq_ok {owner : Option File} {authorized : Bool} :
    evtIoDeviceControl owner authorized c = .ok request ↔ owner.isSome = true ∧
      c.code = request.control.code ∧ c.input = request.bytes ∧ request.Fits ∧
        request.TakesOutput c.outputLength ∧
          (request.control.isKeyboardMouse = true → authorized = true) := by
  constructor
  · intro h
    cases owner with
    | none => cases h
    | some owner =>
    unfold evtIoDeviceControl at h
    refine ⟨rfl, ?_⟩
    cases hcode : Control.ofCode c.code with
    | none =>
      simp only [hcode] at h
      cases h
    | some control =>
      have hc := Control.ofCode_eq_some.1 hcode
      simp only [hcode] at h
      cases control with
      | queryInfo =>
        obtain ⟨id, rfl, hinput, hlength⟩ := query_eq_ok.1 h
        exact ⟨hc, hinput, trivial, hlength, fun hkm => by cases hkm⟩
      | pollFeedback =>
        obtain ⟨id, rfl, hinput, hlength⟩ := poll_eq_ok.1 h
        exact ⟨hc, hinput, trivial, hlength, fun hkm => by cases hkm⟩
      | createController =>
        obtain ⟨a, rfl, hfits, hinput⟩ := mapped_eq_ok.1 h
        exact ⟨hc, hinput, hfits, trivial, fun hkm => by cases hkm⟩
      | destroyController | submitInputState | submitTouchState | submitMotionState
      | submitBatteryState | setSteamControllerAttributes =>
        obtain ⟨a, rfl, -, hinput⟩ := mapped_eq_ok.1 h
        exact ⟨hc, hinput, trivial, trivial, fun hkm => by cases hkm⟩
      | kmQuery | kmOpen | kmClose | kmKeyboard | kmButton | kmRelative | kmAbsolute | kmAbort
      | kmConsumer =>
        dsimp only at h
        split at h
        · rename_i hauthorized
          obtain ⟨hcontrol, hinput, hfits, hlength⟩ := (dispatchKeyboardMouse_eq_ok rfl).1 h
          exact ⟨by rw [hc, hcontrol], hinput, hfits, hlength, fun _ => hauthorized⟩
        · cases h
  · rintro ⟨howner, hc, hinput, hfits, hlength, hauthorized⟩
    obtain ⟨owner, rfl⟩ := Option.isSome_iff_exists.1 howner
    simp only [evtIoDeviceControl, Control.ofCode_eq_some.2 hc]
    cases request with
    | query id => exact query_eq_ok.2 ⟨id, rfl, hinput, hlength⟩
    | poll id => exact poll_eq_ok.2 ⟨id, rfl, hinput, hlength⟩
    | create asked => exact mapped_eq_ok.2 ⟨asked, rfl, hfits, hinput⟩
    | destroy asked => exact mapped_eq_ok.2 ⟨asked, rfl, Layout.full_u32 _, hinput⟩
    | input asked => exact mapped_eq_ok.2 ⟨asked, rfl, full_inputStateRequest _, hinput⟩
    | touch asked => exact mapped_eq_ok.2 ⟨asked, rfl, full_touchStateRequest _, hinput⟩
    | motion asked => exact mapped_eq_ok.2 ⟨asked, rfl, full_motionStateRequest _, hinput⟩
    | battery asked => exact mapped_eq_ok.2 ⟨asked, rfl, full_batteryStateRequest _, hinput⟩
    | attributes asked =>
      exact mapped_eq_ok.2 ⟨asked, rfl, full_steamControllerAttributesRequest _, hinput⟩
    | keyboardMouse asked =>
      have hcontrol : (Request.keyboardMouse asked).control.isKeyboardMouse = true := by
        cases asked with
        | submit event => cases event <;> rfl
        | _ => rfl
      have hdispatch := (dispatchKeyboardMouse_eq_ok hcontrol).2 ⟨rfl, hinput, hfits, hlength⟩
      rw [hauthorized hcontrol]
      cases asked with
      | submit event => cases event <;> exact hdispatch
      | _ => exact hdispatch

theorem takesOutput_outputBytes (request : Request) :
    request.TakesOutput request.control.outputBytes := by
  cases request with
  | keyboardMouse asked =>
    cases asked with
    | submit event => cases event <;> rfl
    | _ => rfl
  | query | poll => exact Nat.le_refl _
  | _ => trivial

-- Requests of one control with one buffer are one request.
theorem bytes_inj {other : Request} (hfits : request.Fits) (hother : other.Fits)
    (hcontrol : request.control = other.control) (hbytes : request.bytes = other.bytes) :
    request = other := by
  have hlength := takesOutput_outputBytes request
  have hlength' := takesOutput_outputBytes other
  rw [← hcontrol] at hlength'
  let c : DeviceControl := ⟨request.control.code, request.bytes, request.control.outputBytes⟩
  have hfirst : evtIoDeviceControl (some 0) true c = .ok request :=
    evtIoDeviceControl_eq_ok.2 ⟨rfl, rfl, rfl, hfits, hlength, fun _ => rfl⟩
  have hsecond : evtIoDeviceControl (some 0) true c = .ok other :=
    evtIoDeviceControl_eq_ok.2 ⟨rfl, by rw [← hcontrol], hbytes, hother, hlength', fun _ => rfl⟩
  rw [hfirst] at hsecond
  exact Except.ok.inj hsecond

end Dispatch

section Refusals

-- The bytes are the buffer of one of the control's requests.
def Control.Carries (control : Control) (bytes : List UInt8) : Prop :=
  ∃ request : Request, request.control = control ∧ request.Fits ∧ bytes = request.bytes

-- What a control can be refused for unread, and the status that each fault gets. Of two
-- faults the one that the driver looks for first counts.
inductive Refused (authorized : Bool) (c : DeviceControl) : Option File → NtStatus → Prop where
  | file : Refused authorized c none .invalidHandle
  | code {owner : File} (unknown : Control.ofCode c.code = none) :
    Refused authorized c (some owner) .invalidDeviceRequest
  | caller {owner : File} {control : Control} (code : c.code = control.code)
    (keyboardMouse : control.isKeyboardMouse = true) (denied : authorized = false) :
    Refused authorized c (some owner) .accessDenied
  | header {owner : File} {control : Control} (code : c.code = control.code)
    (controller : control.isKeyboardMouse = false) (short : c.input.length < headerBytes) :
    Refused authorized c (some owner) .bufferTooSmall
  | buffer {owner : File} {control : Control} (code : c.code = control.code)
    (controller : control.isKeyboardMouse = false) (long : headerBytes ≤ c.input.length)
    (other : ¬control.Carries c.input) : Refused authorized c (some owner) invalidBufferSize
  | room {owner : File} {request : Request} (code : c.code = request.control.code)
    (controller : request.control.isKeyboardMouse = false) (fits : request.Fits)
    (carries : c.input = request.bytes) (small : ¬request.TakesOutput c.outputLength) :
    Refused authorized c (some owner) .bufferTooSmall
  -- A keyboard or mouse buffer is measured before its header is read.
  | length {owner : File} {control : Control} (code : c.code = control.code)
    (keyboardMouse : control.isKeyboardMouse = true) (admitted : authorized = true)
    (other : ∀ request : Request, request.control = control →
      request.bytes.length ≠ c.input.length) : Refused authorized c (some owner) invalidBufferSize
  | fields {owner : File} {request : Request} (code : c.code = request.control.code)
    (keyboardMouse : request.control.isKeyboardMouse = true) (admitted : authorized = true)
    (length : request.bytes.length = c.input.length)
    (other : ¬request.control.Carries c.input) : Refused authorized c (some owner) .invalidParameter
  | answer {owner : File} {request : Request} (code : c.code = request.control.code)
    (keyboardMouse : request.control.isKeyboardMouse = true) (admitted : authorized = true)
    (fits : request.Fits) (carries : c.input = request.bytes)
    (size : ¬request.TakesOutput c.outputLength) :
    Refused authorized c (some owner) invalidBufferSize

variable {α : Type} {c : DeviceControl}

theorem retrieveRequest_short (x : Layout α) (h : c.input.length < headerBytes) :
    retrieveRequest x c = .error .bufferTooSmall := by
  simp only [retrieveRequest, DeviceControl.retrieveInputBuffer, if_pos h, bind, Except.bind]

theorem retrieveRequest_other (x : Layout α) (hlong : headerBytes ≤ c.input.length)
    (hother : ∀ a, x.Fits a → c.input ≠ framed x a) :
    retrieveRequest x c = .error invalidBufferSize := by
  cases hretrieved : retrieveRequest x c with
  | ok a =>
    obtain ⟨hfits, hinput⟩ := retrieveRequest_eq_ok.1 hretrieved
    exact absurd hinput (hother a hfits)
  | error status =>
    simp only [retrieveRequest, retrieveInputBuffer_eq_ok.2 ⟨hlong, rfl⟩, bind, Except.bind]
      at hretrieved
    split at hretrieved <;> cases hretrieved
    rfl

theorem retrieveQuery_other (hlong : headerBytes ≤ c.input.length)
    (hother : ∀ id, c.input ≠ (Request.query id).bytes) :
    retrieveQuery c = .error invalidBufferSize := by
  cases hretrieved : retrieveQuery c with
  | ok request =>
    obtain ⟨id, rfl, hinput⟩ := retrieveQuery_eq_ok.1 hretrieved
    exact absurd hinput (hother id)
  | error status =>
    simp only [retrieveQuery, retrieveInputBuffer_eq_ok.2 ⟨hlong, rfl⟩, bind, Except.bind]
      at hretrieved
    repeat' split at hretrieved
    all_goals cases hretrieved
    rfl

theorem retrieveOutputBuffer_small {minimum : Nat} (h : ¬minimum ≤ c.outputLength) :
    c.retrieveOutputBuffer minimum = .error .bufferTooSmall := by
  rw [DeviceControl.retrieveOutputBuffer, if_pos (Nat.lt_of_not_le h)]

theorem mapped_other {control : Control} {x : Layout α} {f : α → Request}
    (hlong : headerBytes ≤ c.input.length) (hother : ¬control.Carries c.input)
    (hf : ∀ a, x.Fits a → (f a).control = control ∧ (f a).Fits ∧ (f a).bytes = framed x a) :
    f <$> retrieveRequest x c = .error invalidBufferSize := by
  have hretrieved := retrieveRequest_other x hlong fun a ha hinput => by
    obtain ⟨hcontrol, hfits, hbytes⟩ := hf a ha
    exact hother ⟨f a, hcontrol, hfits, hinput.trans hbytes.symm⟩
  simp only [hretrieved, Functor.map, Except.map]

section Controller

variable {owner : File} {authorized : Bool} {control : Control}

theorem evtIoDeviceControl_header (hcode : c.code = control.code)
    (hcontrol : control.isKeyboardMouse = false) (h : c.input.length < headerBytes) :
    evtIoDeviceControl (some owner) authorized c = .error .bufferTooSmall := by
  simp only [evtIoDeviceControl, Control.ofCode_eq_some.2 hcode]
  cases control with
  | queryInfo =>
    simp only [retrieveQuery, DeviceControl.retrieveInputBuffer, if_pos h, bind, Except.bind]
  | pollFeedback => simp only [retrieveRequest_short _ h, bind, Except.bind]
  | createController | destroyController | submitInputState | submitTouchState
  | submitMotionState | submitBatteryState | setSteamControllerAttributes =>
    simp only [retrieveRequest_short _ h, Functor.map, Except.map]
  | _ => cases hcontrol

theorem evtIoDeviceControl_buffer (hcode : c.code = control.code)
    (hcontrol : control.isKeyboardMouse = false) (hlong : headerBytes ≤ c.input.length)
    (hother : ¬control.Carries c.input) :
    evtIoDeviceControl (some owner) authorized c = .error invalidBufferSize := by
  simp only [evtIoDeviceControl, Control.ofCode_eq_some.2 hcode]
  cases control with
  | queryInfo =>
    have hquery : retrieveQuery c = .error invalidBufferSize :=
      retrieveQuery_other hlong fun id hinput => hother ⟨.query id, rfl, trivial, hinput⟩
    simp only [hquery, bind, Except.bind]
  | pollFeedback =>
    have hpoll : retrieveRequest Layout.u32 c = .error invalidBufferSize :=
      retrieveRequest_other _ hlong fun id _ hinput => hother ⟨.poll id, rfl, trivial, hinput⟩
    simp only [hpoll, bind, Except.bind]
  | createController => exact mapped_other hlong hother fun a ha => ⟨rfl, ha, rfl⟩
  | destroyController | submitInputState | submitTouchState | submitMotionState
  | submitBatteryState | setSteamControllerAttributes =>
    exact mapped_other hlong hother fun a _ => ⟨rfl, trivial, rfl⟩
  | _ => cases hcontrol

theorem evtIoDeviceControl_room {request : Request} (hcode : c.code = request.control.code)
    (hcontrol : request.control.isKeyboardMouse = false) (hinput : c.input = request.bytes)
    (hsmall : ¬request.TakesOutput c.outputLength) :
    evtIoDeviceControl (some owner) authorized c = .error .bufferTooSmall := by
  simp only [evtIoDeviceControl, Control.ofCode_eq_some.2 hcode]
  cases request with
  | query id =>
    have hroom := retrieveOutputBuffer_small (c := c) hsmall
    simp only [Request.control, retrieveQuery_eq_ok.2 ⟨id, rfl, hinput⟩, hroom, bind, Except.bind]
  | poll id =>
    have hroom := retrieveOutputBuffer_small (c := c) hsmall
    simp only [Request.control, retrieveRequest_eq_ok.2 ⟨Layout.full_u32 id, hinput⟩, hroom, bind,
      Except.bind]
  | keyboardMouse asked =>
    cases asked with
    | submit event => cases event <;> cases hcontrol
    | _ => cases hcontrol
  | _ => exact absurd trivial hsmall

end Controller

section KeyboardMouse

variable {x : Layout α} {header : α → RequestHeader}

theorem retrieveKeyboardMouseRequest_length (h : c.input.length ≠ x.size) :
    retrieveKeyboardMouseRequest x header c = .error invalidBufferSize := by
  rw [retrieveKeyboardMouseRequest, if_pos h]

theorem retrieveKeyboardMouseRequest_fields (hx : x.Full) (hlength : c.input.length = x.size)
    (hother : ∀ a, KeyboardMouse.validHeader (UInt32.ofNat x.size) (header a) = true →
      c.input ≠ x.write a) :
    retrieveKeyboardMouseRequest x header c = .error .invalidParameter := by
  cases hretrieved : retrieveKeyboardMouseRequest x header c with
  | ok a =>
    obtain ⟨hvalid, hinput⟩ := (retrieveKeyboardMouseRequest_eq_ok hx).1 hretrieved
    exact absurd hinput (hother a hvalid)
  | error status =>
    rw [retrieveKeyboardMouseRequest, if_neg (not_not_intro hlength)] at hretrieved
    dsimp only at hretrieved
    split at hretrieved <;> cases hretrieved
    rfl

theorem retrieveSubmission_error {asked : α → KeyboardMouse.Request} {status : NtStatus}
    (h : retrieveKeyboardMouseRequest x header c = .error status) :
    retrieveSubmission x header c asked = .error status := by
  simp only [retrieveSubmission, h, bind, Except.bind]

theorem retrieveControl_error {outputLength : Nat} {asked : KeyboardMouseRequest}
    {status : NtStatus} (h : retrieveKeyboardMouseRequest requestHeader id c = .error status) :
    retrieveControl c outputLength asked = .error status := by
  simp only [retrieveControl, h, bind, Except.bind]

theorem retrieveSubmission_answer {asked : α → KeyboardMouse.Request} (hx : x.Full) {a : α}
    (hvalid : KeyboardMouse.validHeader (UInt32.ofNat x.size) (header a) = true)
    (hinput : c.input = x.write a) (hsize : c.outputLength ≠ kmSubmissionResponseBytes) :
    retrieveSubmission x header c asked = .error invalidBufferSize := by
  have hretrieved := (retrieveKeyboardMouseRequest_eq_ok hx).2 ⟨hvalid, hinput⟩
  simp only [retrieveSubmission, hretrieved, bind, Except.bind, if_pos hsize]

theorem retrieveControl_answer {outputLength : Nat} {asked : KeyboardMouseRequest}
    (hinput : c.input = requestHeader.write Request.kmHeader)
    (hsize : c.outputLength ≠ outputLength) :
    retrieveControl c outputLength asked = .error invalidBufferSize := by
  have hretrieved : retrieveKeyboardMouseRequest requestHeader id c = .ok Request.kmHeader :=
    (retrieveKeyboardMouseRequest_eq_ok full_requestHeader).2 ⟨validHeader_kmHeader.2 rfl, hinput⟩
  simp only [retrieveControl, hretrieved, bind, Except.bind, if_pos hsize]

end KeyboardMouse

section Dispatched

variable {control : Control} {request : Request}

theorem dispatchKeyboardMouse_length (hcontrol : control.isKeyboardMouse = true)
    (hother : ∀ request : Request, request.control = control →
      request.bytes.length ≠ c.input.length) :
    dispatchKeyboardMouse c control = .error invalidBufferSize := by
  have hsize {α : Type} {x : Layout α} {f : α → Request} (hf : ∀ a, (f a).control = control)
      (hbytes : ∀ a, (f a).bytes = x.write a) : c.input.length ≠ x.size := by
    intro heq
    refine hother (f (x.read [])) (hf _) ?_
    rw [hbytes, x.length_write, heq]
  cases control with
  | kmQuery =>
    exact retrieveControl_error (retrieveKeyboardMouseRequest_length
      fun heq => hother (.keyboardMouse .query) rfl (by rw [heq]; rfl))
  | kmOpen =>
    exact retrieveControl_error (retrieveKeyboardMouseRequest_length
      fun heq => hother (.keyboardMouse .openSource) rfl (by rw [heq]; rfl))
  | kmClose =>
    exact retrieveControl_error (retrieveKeyboardMouseRequest_length
      fun heq => hother (.keyboardMouse .close) rfl (by rw [heq]; rfl))
  | kmAbort =>
    exact retrieveControl_error (retrieveKeyboardMouseRequest_length
      fun heq => hother (.keyboardMouse .abort) rfl (by rw [heq]; rfl))
  | kmKeyboard =>
    exact retrieveSubmission_error (retrieveKeyboardMouseRequest_length
      (hsize (f := fun a => .keyboardMouse (.submit (.keyboard a))) (fun _ => rfl) fun _ => rfl))
  | kmButton =>
    exact retrieveSubmission_error (retrieveKeyboardMouseRequest_length
      (hsize (f := fun a => .keyboardMouse (.submit (.button a))) (fun _ => rfl) fun _ => rfl))
  | kmConsumer =>
    exact retrieveSubmission_error (retrieveKeyboardMouseRequest_length
      (hsize (f := fun a => .keyboardMouse (.submit (.consumer a))) (fun _ => rfl) fun _ => rfl))
  | kmRelative =>
    exact retrieveSubmission_error (retrieveKeyboardMouseRequest_length
      (hsize (f := fun a => .keyboardMouse (.submit (.relative a))) (fun _ => rfl) fun _ => rfl))
  | kmAbsolute =>
    exact retrieveSubmission_error (retrieveKeyboardMouseRequest_length
      (hsize (f := fun a => .keyboardMouse (.submit (.absolute a))) (fun _ => rfl) fun _ => rfl))
  | _ => cases hcontrol

theorem dispatchKeyboardMouse_fields (hcontrol : request.control.isKeyboardMouse = true)
    (hlength : request.bytes.length = c.input.length)
    (hother : ¬request.control.Carries c.input) :
    dispatchKeyboardMouse c request.control = .error .invalidParameter := by
  have hevent {α : Type} {x : Layout α} (hx : x.Full) {header : α → RequestHeader}
      {asked : α → KeyboardMouse.Request} (a : α)
      (hcontrol : ∀ b, (Request.keyboardMouse (.submit (asked b))).control = request.control)
      (hvalid : ∀ b, KeyboardMouse.validHeader (UInt32.ofNat x.size) (header b) = true →
        (asked b).valid = true)
      (hbytes : ∀ b, (Request.keyboardMouse (.submit (asked b))).bytes = x.write b)
      (ha : request.bytes = x.write a) :
      retrieveSubmission x header c asked = .error .invalidParameter := by
    refine retrieveSubmission_error (retrieveKeyboardMouseRequest_fields hx ?_ fun b hb hinput => ?_)
    · rw [← hlength, ha, x.length_write]
    · exact hother ⟨_, hcontrol b, hvalid b hb, hinput.trans (hbytes b).symm⟩
  have hbare {outputLength : Nat} {asked : KeyboardMouseRequest}
      (hcontrol : (Request.keyboardMouse asked).control = request.control)
      (hfits : (Request.keyboardMouse asked).Fits)
      (hbytes : (Request.keyboardMouse asked).bytes = requestHeader.write Request.kmHeader)
      (ha : request.bytes = requestHeader.write Request.kmHeader) :
      retrieveControl c outputLength asked = .error .invalidParameter := by
    refine retrieveControl_error
      (retrieveKeyboardMouseRequest_fields full_requestHeader ?_ fun b hb hinput => ?_)
    · rw [← hlength, ha, requestHeader.length_write]
    · obtain rfl := validHeader_kmHeader.1 hb
      exact hother ⟨_, hcontrol, hfits, hinput.trans hbytes.symm⟩
  cases request with
  | keyboardMouse asked =>
    cases asked with
    | query | openSource | close | abort => exact hbare rfl trivial rfl rfl
    | submit event =>
      cases event with
      | keyboard a =>
        exact hevent KeyboardMouse.full_keyboardRequest a (fun _ => rfl) (fun _ h => h)
          (fun _ => rfl) rfl
      | consumer a =>
        exact hevent KeyboardMouse.full_consumerRequest a (fun _ => rfl) (fun _ h => h)
          (fun _ => rfl) rfl
      | button a =>
        exact hevent KeyboardMouse.full_buttonRequest a (fun _ => rfl) (fun _ h => h)
          (fun _ => rfl) rfl
      | relative a =>
        exact hevent KeyboardMouse.full_relativeRequest a (fun _ => rfl) (fun _ h => h)
          (fun _ => rfl) rfl
      | absolute a =>
        exact hevent KeyboardMouse.full_absoluteRequest a (fun _ => rfl) (fun _ h => h)
          (fun _ => rfl) rfl
  | _ => cases hcontrol

theorem dispatchKeyboardMouse_answer (hcontrol : request.control.isKeyboardMouse = true)
    (hfits : request.Fits) (hinput : c.input = request.bytes)
    (hsize : ¬request.TakesOutput c.outputLength) :
    dispatchKeyboardMouse c request.control = .error invalidBufferSize := by
  cases request with
  | keyboardMouse asked =>
    cases asked with
    | query | openSource | close | abort =>
      exact retrieveControl_answer hinput hsize
    | submit event =>
      cases event with
      | keyboard a =>
        exact retrieveSubmission_answer KeyboardMouse.full_keyboardRequest hfits hinput hsize
      | consumer a =>
        exact retrieveSubmission_answer KeyboardMouse.full_consumerRequest hfits hinput hsize
      | button a =>
        exact retrieveSubmission_answer KeyboardMouse.full_buttonRequest hfits hinput hsize
      | relative a =>
        exact retrieveSubmission_answer KeyboardMouse.full_relativeRequest hfits hinput hsize
      | absolute a =>
        exact retrieveSubmission_answer KeyboardMouse.full_absoluteRequest hfits hinput hsize
  | _ => cases hcontrol

end Dispatched

theorem evtIoDeviceControl_keyboardMouse {owner : File} {control : Control}
    (hcode : c.code = control.code) (hcontrol : control.isKeyboardMouse = true) :
    evtIoDeviceControl (some owner) true c = dispatchKeyboardMouse c control := by
  simp only [evtIoDeviceControl, Control.ofCode_eq_some.2 hcode]
  cases control <;> first | rfl | cases hcontrol

-- Every fault gets its status.
theorem Refused.answered {owner : Option File} {authorized : Bool} {status : NtStatus}
    (h : Refused authorized c owner status) :
    evtIoDeviceControl owner authorized c = .error status := by
  cases h with
  | file => rfl
  | code unknown => simp only [evtIoDeviceControl, unknown]
  | @caller _ control code keyboardMouse denied =>
    subst denied
    simp only [evtIoDeviceControl, Control.ofCode_eq_some.2 code]
    cases control <;> first | rfl | cases keyboardMouse
  | header code controller short => exact evtIoDeviceControl_header code controller short
  | buffer code controller long other =>
    exact evtIoDeviceControl_buffer code controller long other
  | room code controller fits carries small =>
    exact evtIoDeviceControl_room code controller carries small
  | length code keyboardMouse admitted other =>
    rw [admitted, evtIoDeviceControl_keyboardMouse code keyboardMouse]
    exact dispatchKeyboardMouse_length keyboardMouse other
  | fields code keyboardMouse admitted length other =>
    rw [admitted, evtIoDeviceControl_keyboardMouse code keyboardMouse]
    exact dispatchKeyboardMouse_fields keyboardMouse length other
  | answer code keyboardMouse admitted fits carries size =>
    rw [admitted, evtIoDeviceControl_keyboardMouse code keyboardMouse]
    exact dispatchKeyboardMouse_answer keyboardMouse fits carries size

-- A control that has none of the faults is taken.
theorem taken_or_refused (owner : Option File) (authorized : Bool) (c : DeviceControl) :
    (∃ request, evtIoDeviceControl owner authorized c = .ok request) ∨
      ∃ status, Refused authorized c owner status := by
  cases owner with
  | none => exact .inr ⟨_, .file⟩
  | some owner =>
  cases hcode : Control.ofCode c.code with
  | none => exact .inr ⟨_, .code hcode⟩
  | some control =>
  have hc := Control.ofCode_eq_some.1 hcode
  have htaken {request : Request} (hcontrol : request.control = control) (hfits : request.Fits)
      (hinput : c.input = request.bytes) (hlength : request.TakesOutput c.outputLength)
      (hauthorized : control.isKeyboardMouse = true → authorized = true) :
      ∃ request, evtIoDeviceControl (some owner) authorized c = .ok request :=
    ⟨request, evtIoDeviceControl_eq_ok.2
      ⟨rfl, hcontrol ▸ hc, hinput, hfits, hlength, hcontrol ▸ hauthorized⟩⟩
  cases hkm : control.isKeyboardMouse with
  | false =>
    by_cases hshort : c.input.length < headerBytes
    · exact .inr ⟨_, .header hc hkm hshort⟩
    by_cases hcarries : control.Carries c.input
    · obtain ⟨request, rfl, hfits, hinput⟩ := hcarries
      by_cases hlength : request.TakesOutput c.outputLength
      · exact .inl (htaken rfl hfits hinput hlength fun h => by rw [hkm] at h; cases h)
      · exact .inr ⟨_, .room hc hkm hfits hinput hlength⟩
    · exact .inr ⟨_, .buffer hc hkm (Nat.le_of_not_lt hshort) hcarries⟩
  | true =>
    cases hauthorized : authorized with
    | false => exact .inr ⟨_, .caller hc hkm rfl⟩
    | true =>
    by_cases hlength : ∃ request : Request, request.control = control ∧
        request.bytes.length = c.input.length
    · by_cases hcarries : control.Carries c.input
      · obtain ⟨request, rfl, hfits, hinput⟩ := hcarries
        by_cases houtput : request.TakesOutput c.outputLength
        · rw [hauthorized] at htaken
          exact .inl (htaken rfl hfits hinput houtput fun _ => rfl)
        · exact .inr ⟨_, .answer hc hkm rfl hfits hinput houtput⟩
      · obtain ⟨request, rfl, hsame⟩ := hlength
        exact .inr ⟨_, .fields hc hkm rfl hsame hcarries⟩
    · exact .inr ⟨_, .length hc hkm rfl fun request hcontrol hsame =>
        hlength ⟨request, hcontrol, hsame⟩⟩

theorem evtIoDeviceControl_eq_error {owner : Option File} {authorized : Bool} {status : NtStatus} :
    evtIoDeviceControl owner authorized c = .error status ↔ Refused authorized c owner status := by
  refine ⟨fun h => ?_, Refused.answered⟩
  obtain ⟨request, htaken⟩ | ⟨status', hrefused⟩ := taken_or_refused owner authorized c
  · rw [h] at htaken
    cases htaken
  · rw [hrefused.answered] at h
    cases h
    exact hrefused

-- Every control is either one request's, whose buffer it has byte for byte and whose answer
-- it has room for, or has a fault and is completed unread with that fault's status.
theorem device_controls (owner : Option File) (authorized : Bool) (c : DeviceControl) :
    (∀ request, evtIoDeviceControl owner authorized c = .ok request ↔
      owner.isSome = true ∧ c.code = request.control.code ∧ c.input = request.bytes ∧
        request.Fits ∧ request.TakesOutput c.outputLength ∧
          (request.control.isKeyboardMouse = true → authorized = true)) ∧
    (∀ request other : Request, request.Fits → other.Fits → request.control = other.control →
      request.bytes = other.bytes → request = other) ∧
    ∀ status, evtIoDeviceControl owner authorized c = .error status ↔
      Refused authorized c owner status := by
  refine ⟨fun request => evtIoDeviceControl_eq_ok, ?_, fun status => evtIoDeviceControl_eq_error⟩
  intro request other hfits hother hcontrol hbytes
  exact bytes_inj hfits hother hcontrol hbytes

end Refusals

end LibVirtualGamepad
