import LibVirtualGamepad.Client
import LibVirtualGamepad.Wire.Requests

-- The client library's calls: the control each one issues, and what it makes of the
-- reply.
namespace LibVirtualGamepad

open Wire

def errorInvalidFunction : UInt32 := 1
def errorInvalidHandle : UInt32 := 6
def errorNotReady : UInt32 := 21
def errorNotSupported : UInt32 := 50
def errorBusy : UInt32 := 170
def errorRevisionMismatch : UInt32 := 1306
def errorInvalidUserBuffer : UInt32 := 1784

-- What a caller read from the real controller.
structure SteamControllerAttributes where
  flags : UInt32
  firmwareBuildTime : UInt32
  bootloaderBuildTime : UInt32
  boardRevision : UInt32
  capabilities : UInt32
  buildId : Vector UInt8 16
  unitSerial : Vector UInt8 16
  boardSerial : Vector UInt8 16

def SteamControllerAttributes.request (attributes : SteamControllerAttributes)
    (controllerId : UInt32) : SteamControllerAttributesRequest where
  controllerId := controllerId
  flags := attributes.flags
  firmwareBuildTime := attributes.firmwareBuildTime
  bootloaderBuildTime := attributes.bootloaderBuildTime
  boardRevision := attributes.boardRevision
  capabilities := attributes.capabilities
  buildId := attributes.buildId
  unitSerial := attributes.unitSerial
  boardSerial := attributes.boardSerial

namespace Client

-- A call of the library. `place` tells whether the caller gave a place for the answer;
-- a submission comes with the header its caller filled in.
inductive Call where
  | queryInfo
  | createController (controllerId : UInt32) (requestedProfile : UInt16)
  | destroyController (controllerId : UInt32)
  | submitInputState (header : RequestHeader) (input : InputStateRequest)
  | submitTouchState (header : RequestHeader) (input : TouchStateRequest)
  | submitMotionState (header : RequestHeader) (input : MotionStateRequest)
  | submitBatteryState (header : RequestHeader) (input : BatteryStateRequest)
  | pollFeedback (place : Bool) (controllerId : UInt32)
  | queryFeedbackCounters (place : Bool) (controllerId : UInt32)
  | setSteamControllerAttributes (controllerId : UInt32) (attributes : SteamControllerAttributes)
  | queryKeyboardMouse (place : Bool)
  | openKeyboardMouse
  | closeKeyboardMouse
  | abortKeyboardMouse
  | submitKeyboardMouse (input : KeyboardMouse.Request)

-- What a connection knows of its driver; cleared while it is closed.
structure State where
  connected : Bool
  info : QueryInfo

def validInput (size : Nat) (header : RequestHeader) : Bool :=
  header.size == UInt32.ofNat size && header.version == protocolVersion && header.reserved == 0

-- What the library looks at before a keyboard or mouse event is sent.
def validKeyboardMouse : KeyboardMouse.Request → Bool
  | .keyboard input =>
    (KeyboardMouse.Request.keyboard input).valid && input.reserved == 0 && input.pressed ≤ 1 &&
      4 ≤ input.usage && input.usage ≤ 0xE7
  | .button input =>
    (KeyboardMouse.Request.button input).valid && input.reserved == 0 && input.pressed ≤ 1 &&
      1 ≤ input.button && input.button ≤ 5
  | .consumer input =>
    (KeyboardMouse.Request.consumer input).valid && input.reserved == 0 && input.pressed ≤ 1 &&
      [0x00E2, 0x00E9, 0x00EA, 0x00CD, 0x00B5, 0x00B6, 0x00B7].contains input.usage
  | .relative input =>
    (KeyboardMouse.Request.relative input).valid && input.reserved == 0 && input.wheel != -128 &&
      input.pan != -128
  | .absolute input => (KeyboardMouse.Request.absolute input).valid

namespace State

def send (client : State) (control : Control) (input : List UInt8) (outputLength : Nat) :
    Except UInt32 DeviceControl :=
  if client.connected then .ok ⟨control.code, input, outputLength⟩ else .error errorInvalidHandle

-- A submission goes out as its caller filled it in, once its header and its reserved
-- fields are in order.
def submit {α : Type} (client : State) (control : Control) (x : Layout α) (header : RequestHeader)
    (input : α) (reservedClear : Bool) : Except UInt32 DeviceControl :=
  if !validInput (headerBytes + x.size) header || !reservedClear then
    .error errorInvalidParameter
  else
    client.send control (requestHeader.write header ++ x.write input) 0

def sendSubmission (client : State) : KeyboardMouse.Request → Except UInt32 DeviceControl
  | .keyboard input =>
    client.send .kmKeyboard (KeyboardMouse.keyboardRequest.write input) kmSubmissionResponseBytes
  | .consumer input =>
    client.send .kmConsumer (KeyboardMouse.consumerRequest.write input) kmSubmissionResponseBytes
  | .button input =>
    client.send .kmButton (KeyboardMouse.buttonRequest.write input) kmSubmissionResponseBytes
  | .relative input =>
    client.send .kmRelative (KeyboardMouse.relativeRequest.write input) kmSubmissionResponseBytes
  | .absolute input =>
    client.send .kmAbsolute (KeyboardMouse.absoluteRequest.write input) kmSubmissionResponseBytes

-- The control a call issues, or the error it returns without one.
def issue (client : State) : Call → Except UInt32 DeviceControl
  | .queryInfo =>
    client.send .queryInfo (requestHeader.write (makeHeader headerBytes)) queryInfoResponseBytes
  | .createController controllerId requestedProfile =>
    if !client.connected then .error errorInvalidHandle
    else if client.info.maximumControllers ≤ controllerId then .error errorInvalidParameter
    else if client.info.availableProfiles &&& (Profile.ofWord requestedProfile).bit = 0 then
      .error errorNotSupported
    else
      client.send .createController
        (framed createControllerRequest ⟨controllerId, Profile.ofWord requestedProfile, 0⟩) 0
  | .destroyController controllerId =>
    if !client.connected then .error errorInvalidHandle
    else if client.info.maximumControllers ≤ controllerId then .error errorInvalidParameter
    else client.send .destroyController (framed Layout.u32 controllerId) 0
  | .submitInputState header input =>
    client.submit .submitInputState inputStateRequest header input (input.reserved == 0)
  | .submitTouchState header input =>
    client.submit .submitTouchState touchStateRequest header input (input.reserved == 0)
  | .submitMotionState header input =>
    client.submit .submitMotionState motionStateRequest header input (input.reserved0 == (0, 0, 0))
  | .submitBatteryState header input =>
    client.submit .submitBatteryState batteryStateRequest header input (input.reserved == 0)
  | .pollFeedback place controllerId =>
    if !place then .error errorInvalidParameter
    else client.send .pollFeedback (framed Layout.u32 controllerId) feedbackEventBytes.toNat
  | .queryFeedbackCounters place controllerId =>
    if !client.connected then .error errorInvalidHandle
    else if !place || client.info.maximumControllers ≤ controllerId then
      .error errorInvalidParameter
    else client.send .queryInfo (framed Layout.u32 controllerId) queryInfoResponseBytes
  | .setSteamControllerAttributes controllerId attributes =>
    if !client.connected then .error errorInvalidHandle
    else if client.info.maximumControllers ≤ controllerId then .error errorInvalidParameter
    else
      client.send .setSteamControllerAttributes
        (framed steamControllerAttributesRequest (attributes.request controllerId)) 0
  | .queryKeyboardMouse place =>
    if !place then .error errorInvalidParameter
    else client.send .kmQuery (requestHeader.write Request.kmHeader) kmQueryResponseBytes
  | .openKeyboardMouse => client.send .kmOpen (requestHeader.write Request.kmHeader) 0
  | .closeKeyboardMouse => client.send .kmClose (requestHeader.write Request.kmHeader) 0
  | .abortKeyboardMouse => client.send .kmAbort (requestHeader.write Request.kmHeader) 0
  | .submitKeyboardMouse input =>
    if !validKeyboardMouse input then .error errorInvalidParameter
    else client.sendSubmission input

end State

-- The request that the call stands for.
def Call.request : Call → Request
  | .queryInfo => .query none
  | .createController controllerId requestedProfile =>
    .create ⟨controllerId, Profile.ofWord requestedProfile, 0⟩
  | .destroyController controllerId => .destroy controllerId
  | .submitInputState _ input => .input input
  | .submitTouchState _ input => .touch input
  | .submitMotionState _ input => .motion input
  | .submitBatteryState _ input => .battery input
  | .pollFeedback _ controllerId => .poll controllerId
  | .queryFeedbackCounters _ controllerId => .query (some controllerId)
  | .setSteamControllerAttributes controllerId attributes =>
    .attributes (attributes.request controllerId)
  | .queryKeyboardMouse _ => .keyboardMouse .query
  | .openKeyboardMouse => .keyboardMouse .openSource
  | .closeKeyboardMouse => .keyboardMouse .close
  | .abortKeyboardMouse => .keyboardMouse .abort
  | .submitKeyboardMouse input => .keyboardMouse (.submit input)

-- What a call hands back when it succeeds.
inductive Answer where
  | done
  | info (info : QueryInfo)
  | event (event : FeedbackEvent)
  | counters (counters : FeedbackCounters)
  | keyboardMouse (capabilities queueCapacity absoluteTargetGeneration : UInt32)

-- A rejected size is the other protocol generation, whatever the control.
def transportError (error : UInt32) : UInt32 :=
  if error = errorInvalidUserBuffer then errorRevisionMismatch else error

def validResponse (bytes : List UInt8) : Bool := validRequest queryInfoResponseBytes bytes

-- The handshake: this protocol, a number of slots in range and no counters.
def readInfo (bytes : List UInt8) : Except UInt32 Answer :=
  let info := Wire.queryInfo.read (bytes.drop headerBytes)
  if !validResponse bytes || protocolVersion < info.minimumProtocolVersion ||
      info.maximumProtocolVersion < protocolVersion || info.maximumControllers == 0 ||
      UInt32.ofNat maxControllers < info.maximumControllers || info.counters != ⟨0, 0, 0, 0⟩ then
    .error errorRevisionMismatch
  else
    .ok (.info info)

def readCounters (bytes : List UInt8) : Except UInt32 Answer :=
  if !validResponse bytes then .error errorInvalidData
  else .ok (.counters (Wire.queryInfo.read (bytes.drop headerBytes)).counters)

def readEvent (controllerId : UInt32) (bytes : List UInt8) : Except UInt32 Answer :=
  let event := Wire.feedbackEvent.read bytes
  let status := pollFeedback true controllerId (.ok (UInt32.ofNat bytes.length, event))
  if status = errorSuccess then .ok (.event event) else .error status

def relativeCapabilities : UInt32 := 0x07
def boundAbsoluteMouse : UInt32 := 0x08
def primaryAbsoluteMouse : UInt32 := 0x10
def knownCapabilities : UInt32 := 0x3F

def readKeyboardMouseInfo (bytes : List UInt8) : Except UInt32 Answer :=
  let (header, capabilities, queueCapacity, generation, reserved) :=
    Wire.KeyboardMouse.queryResponse.read bytes
  if bytes.length ≠ kmQueryResponseBytes ∨ !KeyboardMouse.validHeader 24 header ∨ reserved ≠ 0 ∨
      capabilities &&& ~~~knownCapabilities ≠ 0 ∨
      capabilities &&& relativeCapabilities ≠ relativeCapabilities ∨ queueCapacity < 2 ∨
      (hasAny capabilities primaryAbsoluteMouse ∧ !hasAny capabilities boundAbsoluteMouse) ∨
      hasAny capabilities boundAbsoluteMouse ≠ (generation != 0) then
    .error errorInvalidData
  else
    .ok (.keyboardMouse capabilities queueCapacity generation)

-- Busy is said by a validated reply only.
def readAcceptance (bytes : List UInt8) : Except UInt32 Answer :=
  let (header, acceptance, reserved) := Wire.KeyboardMouse.submissionResponse.read bytes
  if bytes.length ≠ kmSubmissionResponseBytes ∨ !KeyboardMouse.validHeader 16 header ∨
      reserved ≠ 0 then
    .error errorInvalidData
  else if acceptance = 0 then .ok .done
  else if acceptance = 1 then .error errorBusy
  else .error errorInvalidData

-- What the call returns, given what DeviceIoControl came back with.
def receive (call : Call) : Except UInt32 (List UInt8) → Except UInt32 Answer
  | .error error =>
    let error := transportError error
    match call with
    | .setSteamControllerAttributes _ _ =>
      .error (if error = errorInvalidFunction then errorRevisionMismatch else error)
    | .submitKeyboardMouse _ => .error (if error = errorBusy then errorNotReady else error)
    | _ => .error error
  | .ok bytes =>
    match call with
    | .queryInfo => readInfo bytes
    | .queryFeedbackCounters _ _ => readCounters bytes
    | .pollFeedback _ controllerId => readEvent controllerId bytes
    | .queryKeyboardMouse _ => readKeyboardMouseInfo bytes
    | .submitKeyboardMouse _ => readAcceptance bytes
    | _ => .ok .done

end Client

end LibVirtualGamepad
