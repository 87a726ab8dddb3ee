import LibVirtualGamepad.Driver.World
import LibVirtualGamepad.Wire.Structures

-- The device's I/O controls: which buffers are read as which request, and what the
-- buffer of a request is.
namespace LibVirtualGamepad

-- A request for the device's own control interface: function code, access and method.
def ctlCode (function : UInt32) : UInt32 :=
  ((0x22 : UInt32) <<< 16) ||| ((3 : UInt32) <<< 14) ||| (function <<< 2)

-- The control codes of the two interfaces.
inductive Control where
  | queryInfo
  | createController
  | destroyController
  | submitInputState
  | pollFeedback
  | submitTouchState
  | submitMotionState
  | submitBatteryState
  | setSteamControllerAttributes
  | kmQuery
  | kmOpen
  | kmClose
  | kmKeyboard
  | kmButton
  | kmRelative
  | kmAbsolute
  | kmAbort
  | kmConsumer
  deriving DecidableEq

namespace Control

def code : Control → UInt32
  | queryInfo => ctlCode 0x800
  | createController => ctlCode 0x801
  | destroyController => ctlCode 0x802
  | submitInputState => ctlCode 0x803
  | pollFeedback => ctlCode 0x804
  | submitTouchState => ctlCode 0x805
  | submitMotionState => ctlCode 0x806
  | submitBatteryState => ctlCode 0x807
  | setSteamControllerAttributes => ctlCode 0x808
  | kmQuery => ctlCode 0x820
  | kmOpen => ctlCode 0x821
  | kmClose => ctlCode 0x822
  | kmKeyboard => ctlCode 0x823
  | kmButton => ctlCode 0x824
  | kmRelative => ctlCode 0x825
  | kmAbsolute => ctlCode 0x826
  | kmAbort => ctlCode 0x827
  | kmConsumer => ctlCode 0x828

def all : List Control :=
  [queryInfo, createController, destroyController, submitInputState, pollFeedback,
    submitTouchState, submitMotionState, submitBatteryState, setSteamControllerAttributes,
    kmQuery, kmOpen, kmClose, kmKeyboard, kmButton, kmRelative, kmAbsolute, kmAbort, kmConsumer]

-- The case of the switch that a code selects.
def ofCode (code : UInt32) : Option Control := all.find? fun control => control.code == code

def isKeyboardMouse : Control → Bool
  | kmQuery | kmOpen | kmClose | kmKeyboard | kmButton | kmRelative | kmAbsolute | kmAbort
  | kmConsumer => true
  | _ => false

theorem ofCode_code (control : Control) : ofCode control.code = some control := by
  cases control <;> decide

theorem ofCode_eq_some {code : UInt32} {control : Control} :
    ofCode code = some control ↔ code = control.code := by
  constructor
  · intro h
    have hfound := List.find?_some h
    exact (eq_of_beq hfound).symm
  · rintro rfl
    exact ofCode_code control

end Control

-- A buffer of another size than its request. No slot answers with it.
def invalidBufferSize : NtStatus := .external 0xC0000206

-- What the queue hands to the callback.
structure DeviceControl where
  code : UInt32
  input : List UInt8
  outputLength : Nat
  deriving DecidableEq

namespace DeviceControl

def retrieveInputBuffer (c : DeviceControl) (minimum : Nat) : Except NtStatus (List UInt8) :=
  if c.input.length < minimum then .error .bufferTooSmall else .ok c.input

def retrieveOutputBuffer (c : DeviceControl) (minimum : Nat) : Except NtStatus Unit :=
  if c.outputLength < minimum then .error .bufferTooSmall else .ok ()

end DeviceControl

namespace Wire

def headerBytes : Nat := 8

-- The header of a controller request of `size` bytes.
def makeHeader (size : Nat) : RequestHeader := ⟨UInt32.ofNat size, protocolVersion, 0⟩

def validRequest (size : Nat) (bytes : List UInt8) : Bool :=
  bytes.length == size && requestHeader.read bytes == makeHeader size

-- A controller request: its header and its body.
def framed {α : Type} (x : Layout α) (body : α) : List UInt8 :=
  requestHeader.write (makeHeader (headerBytes + x.size)) ++ x.write body

end Wire

open Wire

def retrieveRequest {α : Type} (x : Layout α) (c : DeviceControl) : Except NtStatus α := do
  let raw ← c.retrieveInputBuffer headerBytes
  if validRequest (headerBytes + x.size) raw then .ok (x.read (raw.drop headerBytes))
  else .error invalidBufferSize

-- The callback's length first, then the buffer's own, before anything is read.
def retrieveKeyboardMouseRequest {α : Type} (x : Layout α) (header : α → RequestHeader)
    (c : DeviceControl) : Except NtStatus α :=
  if c.input.length ≠ x.size then
    .error invalidBufferSize
  else
    let request := x.read c.input
    if KeyboardMouse.validHeader (UInt32.ofNat x.size) (header request) then .ok request
    else .error .invalidParameter

-- The two shapes of the device query.
def retrieveQuery (c : DeviceControl) : Except NtStatus Request := do
  let raw ← c.retrieveInputBuffer headerBytes
  if validRequest headerBytes raw then .ok (.query none)
  else if validRequest (headerBytes + Layout.u32.size) raw then
    .ok (.query (some (Layout.u32.read (raw.drop headerBytes))))
  else .error invalidBufferSize

def queryInfoResponseBytes : Nat := 28
def kmQueryResponseBytes : Nat := 24
def kmSubmissionResponseBytes : Nat := 16

-- The answer's bytes.
def Control.outputBytes : Control → Nat
  | queryInfo => queryInfoResponseBytes
  | pollFeedback => feedbackEventBytes.toNat
  | kmQuery => kmQueryResponseBytes
  | kmKeyboard | kmButton | kmRelative | kmAbsolute | kmConsumer => kmSubmissionResponseBytes
  | _ => 0

-- A keyboard or mouse event: the whole reply is there before the event is taken.
def retrieveSubmission {α : Type} (x : Layout α) (header : α → RequestHeader)
    (c : DeviceControl) (request : α → KeyboardMouse.Request) : Except NtStatus Request := do
  let input ← retrieveKeyboardMouseRequest x header c
  if c.outputLength ≠ kmSubmissionResponseBytes then .error invalidBufferSize
  else .ok (.keyboardMouse (.submit (request input)))

-- One of the controls without a body, with the output length it wants.
def retrieveControl (c : DeviceControl) (outputLength : Nat) (request : KeyboardMouseRequest) :
    Except NtStatus Request := do
  let _ ← retrieveKeyboardMouseRequest requestHeader id c
  if c.outputLength ≠ outputLength then .error invalidBufferSize
  else .ok (.keyboardMouse request)

def dispatchKeyboardMouse (c : DeviceControl) : Control → Except NtStatus Request
  | .kmQuery => retrieveControl c kmQueryResponseBytes .query
  | .kmOpen => retrieveControl c 0 .openSource
  | .kmClose => retrieveControl c 0 .close
  | .kmAbort => retrieveControl c 0 .abort
  | .kmKeyboard =>
    retrieveSubmission KeyboardMouse.keyboardRequest (·.header) c .keyboard
  | .kmConsumer =>
    retrieveSubmission KeyboardMouse.consumerRequest (·.header) c .consumer
  | .kmButton => retrieveSubmission KeyboardMouse.buttonRequest (·.header) c .button
  | .kmRelative =>
    retrieveSubmission KeyboardMouse.relativeRequest (·.header) c .relative
  | .kmAbsolute =>
    retrieveSubmission KeyboardMouse.absoluteRequest (·.header) c .absolute
  | _ => .error .invalidDeviceRequest

-- The request that a control is taken for, or the status it is completed with unread.
-- Nothing is done for a request without a file object, and the caller of a keyboard or
-- mouse control is looked at before the buffer is.
def evtIoDeviceControl (owner : Option File) (authorized : Bool) (c : DeviceControl) :
    Except NtStatus Request :=
  match owner with
  | none => .error .invalidHandle
  | some _ =>
    match Control.ofCode c.code with
    | none => .error .invalidDeviceRequest
    | some .queryInfo => do
      let request ← retrieveQuery c
      c.retrieveOutputBuffer queryInfoResponseBytes
      return request
    | some .createController => Request.create <$> retrieveRequest createControllerRequest c
    | some .submitTouchState => Request.touch <$> retrieveRequest touchStateRequest c
    | some .submitMotionState => Request.motion <$> retrieveRequest motionStateRequest c
    | some .submitBatteryState => Request.battery <$> retrieveRequest batteryStateRequest c
    | some .destroyController => Request.destroy <$> retrieveRequest Layout.u32 c
    | some .setSteamControllerAttributes =>
      Request.attributes <$> retrieveRequest steamControllerAttributesRequest c
    | some .submitInputState => Request.input <$> retrieveRequest inputStateRequest c
    | some .pollFeedback => do
      let id ← retrieveRequest Layout.u32 c
      c.retrieveOutputBuffer feedbackEventBytes.toNat
      return .poll id
    | some control => if authorized then dispatchKeyboardMouse c control else .error .accessDenied

namespace Request

def control : Request → Control
  | query _ => .queryInfo
  | create _ => .createController
  | destroy _ => .destroyController
  | input _ => .submitInputState
  | touch _ => .submitTouchState
  | motion _ => .submitMotionState
  | battery _ => .submitBatteryState
  | attributes _ => .setSteamControllerAttributes
  | poll _ => .pollFeedback
  | keyboardMouse .query => .kmQuery
  | keyboardMouse .openSource => .kmOpen
  | keyboardMouse .close => .kmClose
  | keyboardMouse .abort => .kmAbort
  | keyboardMouse (.submit (.keyboard _)) => .kmKeyboard
  | keyboardMouse (.submit (.consumer _)) => .kmConsumer
  | keyboardMouse (.submit (.button _)) => .kmButton
  | keyboardMouse (.submit (.relative _)) => .kmRelative
  | keyboardMouse (.submit (.absolute _)) => .kmAbsolute

-- The header of a keyboard and mouse control without a body.
def kmHeader : RequestHeader := ⟨8, LibVirtualGamepad.KeyboardMouse.abiVersion, 0⟩

-- The buffer of a request.
def bytes : Request → List UInt8
  | query none => requestHeader.write (makeHeader headerBytes)
  | query (some id) => framed Layout.u32 id
  | create request => framed createControllerRequest request
  | destroy id => framed Layout.u32 id
  | input request => framed inputStateRequest request
  | touch request => framed touchStateRequest request
  | motion request => framed motionStateRequest request
  | battery request => framed batteryStateRequest request
  | attributes request => framed steamControllerAttributesRequest request
  | poll id => framed Layout.u32 id
  | keyboardMouse .query | keyboardMouse .openSource | keyboardMouse .close
  | keyboardMouse .abort => requestHeader.write kmHeader
  | keyboardMouse (.submit (.keyboard request)) => KeyboardMouse.keyboardRequest.write request
  | keyboardMouse (.submit (.consumer request)) => KeyboardMouse.consumerRequest.write request
  | keyboardMouse (.submit (.button request)) => KeyboardMouse.buttonRequest.write request
  | keyboardMouse (.submit (.relative request)) => KeyboardMouse.relativeRequest.write request
  | keyboardMouse (.submit (.absolute request)) => KeyboardMouse.absoluteRequest.write request

-- The values that a buffer can carry: a profile in its own spelling, and a keyboard or
-- mouse event with its header in order.
def Fits : Request → Prop
  | create request => createControllerRequest.Fits request
  | keyboardMouse (.submit request) => request.valid = true
  | _ => True

-- The output length that the request asks of its caller.
def TakesOutput (length : Nat) : Request → Prop
  | query _ => queryInfoResponseBytes ≤ length
  | poll _ => feedbackEventBytes.toNat ≤ length
  | keyboardMouse .query => length = kmQueryResponseBytes
  | keyboardMouse .openSource | keyboardMouse .close | keyboardMouse .abort => length = 0
  | keyboardMouse (.submit _) => length = kmSubmissionResponseBytes
  | _ => True

end Request

end LibVirtualGamepad
