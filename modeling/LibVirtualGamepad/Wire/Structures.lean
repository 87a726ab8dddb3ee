import LibVirtualGamepad.Driver.Section
import LibVirtualGamepad.KeyboardMouse.Endpoint
import LibVirtualGamepad.Wire.Layout

-- The packed structures of the two control interfaces, field by field.
namespace LibVirtualGamepad

namespace Profile

def ofWord (raw : UInt16) : Profile :=
  if raw = 1 then .genericHid
  else if raw = 2 then .xbox360
  else if raw = 3 then .xboxOne
  else if raw = 4 then .xboxSeries
  else if raw = 5 then .dualshock4
  else if raw = 6 then .dualsense
  else if raw = 7 then .switchPro
  else if raw = 8 then .genericPid
  else if raw = 9 then .steamController
  else .other raw

def word : Profile → UInt16
  | .genericHid => 1
  | .xbox360 => 2
  | .xboxOne => 3
  | .xboxSeries => 4
  | .dualshock4 => 5
  | .dualsense => 6
  | .switchPro => 7
  | .genericPid => 8
  | .steamController => 9
  | .other raw => raw

theorem word_ofWord (raw : UInt16) : (ofWord raw).word = raw := by
  unfold ofWord
  repeat' split
  all_goals first
    | exact Eq.symm ‹raw = _›
    | rfl

end Profile

namespace FeedbackType

def ofWord (raw : UInt16) : FeedbackType :=
  if raw = 0 then .none
  else if raw = 1 then .genericRumbleRgb
  else if raw = 2 then .rawOutputReport
  else if raw = 3 then .genericRumble
  else if raw = 4 then .xboxRumble
  else if raw = 5 then .playstationOutput
  else if raw = 6 then .steamHaptic
  else if raw = 7 then .steamSettings
  else .other raw

def word : FeedbackType → UInt16
  | .none => 0
  | .genericRumbleRgb => 1
  | .rawOutputReport => 2
  | .genericRumble => 3
  | .xboxRumble => 4
  | .playstationOutput => 5
  | .steamHaptic => 6
  | .steamSettings => 7
  | .other raw => raw

theorem word_ofWord (raw : UInt16) : (ofWord raw).word = raw := by
  unfold ofWord
  repeat' split
  all_goals first
    | exact Eq.symm ‹raw = _›
    | rfl

end FeedbackType

namespace Wire

open Layout

def profile : Layout Profile := u16.as Profile.ofWord Profile.word Profile.word_ofWord

def feedbackType : Layout FeedbackType :=
  u16.as FeedbackType.ofWord FeedbackType.word FeedbackType.word_ofWord

def requestHeader : Layout RequestHeader :=
  (u32.seq (u16.seq u16)).as (fun p => ⟨p.1, p.2.1, p.2.2⟩)
    (fun h => (h.size, h.version, h.reserved)) fun _ => rfl

-- The bodies of the controller requests, behind their header.
def createControllerRequest : Layout CreateControllerRequest :=
  (u32.seq (profile.seq u16)).as (fun p => ⟨p.1, p.2.1, p.2.2⟩)
    (fun r => (r.controllerId, r.requestedProfile, r.reserved)) fun _ => rfl

def inputStateRequest : Layout InputStateRequest :=
  (u32.seq (u32.seq (i16.seq (i16.seq (i16.seq (i16.seq (u8.seq (u8.seq u16)))))))).as
    (fun p => ⟨p.1, p.2.1, p.2.2.1, p.2.2.2.1, p.2.2.2.2.1, p.2.2.2.2.2.1, p.2.2.2.2.2.2.1,
      p.2.2.2.2.2.2.2.1, p.2.2.2.2.2.2.2.2⟩)
    (fun r => (r.controllerId, r.buttons, r.leftX, r.leftY, r.rightX, r.rightY, r.leftTrigger,
      r.rightTrigger, r.reserved)) fun _ => rfl

def touchStateRequest : Layout TouchStateRequest :=
  (u32.seq (u8.seq (u8.seq (u16.seq (u16.seq (u16.seq u16)))))).as
    (fun p => ⟨p.1, p.2.1, p.2.2.1, p.2.2.2.1, p.2.2.2.2.1, p.2.2.2.2.2.1, p.2.2.2.2.2.2⟩)
    (fun r => (r.controllerId, r.contactIndex, r.eventType, r.x, r.y, r.pressure, r.reserved))
    fun _ => rfl

def motionStateRequest : Layout MotionStateRequest :=
  (u32.seq (u8.seq ((u8.seq (u8.seq u8)).seq (i32.seq (i32.seq i32))))).as
    (fun p => ⟨p.1, p.2.1, p.2.2.1, p.2.2.2.1, p.2.2.2.2.1, p.2.2.2.2.2⟩)
    (fun r => (r.controllerId, r.motionType, r.reserved0, r.xMilli, r.yMilli, r.zMilli))
    fun _ => rfl

def batteryStateRequest : Layout BatteryStateRequest :=
  (u32.seq (u8.seq (u8.seq u16))).as (fun p => ⟨p.1, p.2.1, p.2.2.1, p.2.2.2⟩)
    (fun r => (r.controllerId, r.percent, r.flags, r.reserved)) fun _ => rfl

def steamControllerAttributesRequest : Layout SteamControllerAttributesRequest :=
  (u32.seq (u32.seq (u32.seq (u32.seq (u32.seq (u32.seq
    ((bytes 16).seq ((bytes 16).seq (bytes 16))))))))).as
    (fun p => ⟨p.1, p.2.1, p.2.2.1, p.2.2.2.1, p.2.2.2.2.1, p.2.2.2.2.2.1, p.2.2.2.2.2.2.1,
      p.2.2.2.2.2.2.2.1, p.2.2.2.2.2.2.2.2⟩)
    (fun r => (r.controllerId, r.flags, r.firmwareBuildTime, r.bootloaderBuildTime,
      r.boardRevision, r.capabilities, r.buildId, r.unitSerial, r.boardSerial)) fun _ => rfl

-- What the driver sends back.
def feedbackCounters : Layout FeedbackCounters :=
  (u8.seq (u8.seq (u8.seq u8))).as (fun p => ⟨p.1, p.2.1, p.2.2.1, p.2.2.2⟩)
    (fun c => (c.hapticEvicted, c.settingsEvicted, c.transitionsDropped, c.unknownCommands))
    fun _ => rfl

def queryInfo : Layout QueryInfo :=
  (u16.seq (u16.seq (u32.seq (u32.seq (u32.seq feedbackCounters))))).as
    (fun p => ⟨p.1, p.2.1, p.2.2.1, p.2.2.2.1, p.2.2.2.2.1, p.2.2.2.2.2⟩)
    (fun i => (i.minimumProtocolVersion, i.maximumProtocolVersion, i.availableProfiles,
      i.availableFeatures, i.maximumControllers, i.counters)) fun _ => rfl

def feedbackEvent : Layout FeedbackEvent :=
  (requestHeader.seq (u32.seq (feedbackType.seq (u16.seq (bytes feedbackPayloadBytes))))).as
    (fun p => ⟨p.1, p.2.1, p.2.2.1, p.2.2.2.1, p.2.2.2.2⟩)
    (fun e => (e.header, e.controllerId, e.type, e.payloadSize, e.payload)) fun _ => rfl

namespace KeyboardMouse

open LibVirtualGamepad.KeyboardMouse

-- The bodies of the keyboard and mouse requests have their header in front as a field.
def keyboardRequest : Layout KeyboardRequest :=
  (requestHeader.seq (u16.seq (u8.seq u8))).as (fun p => ⟨p.1, p.2.1, p.2.2.1, p.2.2.2⟩)
    (fun r => (r.header, r.usage, r.pressed, r.reserved)) fun _ => rfl

def consumerRequest : Layout ConsumerRequest :=
  (requestHeader.seq (u16.seq (u8.seq u8))).as (fun p => ⟨p.1, p.2.1, p.2.2.1, p.2.2.2⟩)
    (fun r => (r.header, r.usage, r.pressed, r.reserved)) fun _ => rfl

def buttonRequest : Layout ButtonRequest :=
  (requestHeader.seq (u8.seq (u8.seq u16))).as (fun p => ⟨p.1, p.2.1, p.2.2.1, p.2.2.2⟩)
    (fun r => (r.header, r.button, r.pressed, r.reserved)) fun _ => rfl

def relativeRequest : Layout RelativeRequest :=
  (requestHeader.seq (i16.seq (i16.seq (i8.seq (i8.seq u16))))).as
    (fun p => ⟨p.1, p.2.1, p.2.2.1, p.2.2.2.1, p.2.2.2.2.1, p.2.2.2.2.2⟩)
    (fun r => (r.header, r.x, r.y, r.wheel, r.pan, r.reserved)) fun _ => rfl

def absoluteRequest : Layout AbsoluteRequest :=
  (requestHeader.seq (u16.seq (u16.seq u32))).as (fun p => ⟨p.1, p.2.1, p.2.2.1, p.2.2.2⟩)
    (fun r => (r.header, r.x, r.y, r.targetGeneration)) fun _ => rfl

-- Capabilities, queue capacity and the generation of the absolute target.
def queryResponse : Layout (RequestHeader × UInt32 × UInt32 × UInt32 × UInt32) :=
  requestHeader.seq (u32.seq (u32.seq (u32.seq u32)))

def submissionResponse : Layout (RequestHeader × UInt32 × UInt32) :=
  requestHeader.seq (u32.seq u32)

end KeyboardMouse

theorem full_requestHeader : requestHeader.Full :=
  (full_u32.seq (full_u16.seq full_u16)).as fun _ => rfl

theorem full_inputStateRequest : inputStateRequest.Full :=
  (full_u32.seq (full_u32.seq (full_i16.seq (full_i16.seq (full_i16.seq (full_i16.seq
    (full_u8.seq (full_u8.seq full_u16)))))))).as fun _ => rfl

theorem full_touchStateRequest : touchStateRequest.Full :=
  (full_u32.seq (full_u8.seq (full_u8.seq (full_u16.seq (full_u16.seq
    (full_u16.seq full_u16)))))).as fun _ => rfl

theorem full_motionStateRequest : motionStateRequest.Full :=
  (full_u32.seq (full_u8.seq ((full_u8.seq (full_u8.seq full_u8)).seq
    (full_i32.seq (full_i32.seq full_i32))))).as fun _ => rfl

theorem full_batteryStateRequest : batteryStateRequest.Full :=
  (full_u32.seq (full_u8.seq (full_u8.seq full_u16))).as fun _ => rfl

theorem full_steamControllerAttributesRequest : steamControllerAttributesRequest.Full :=
  (full_u32.seq (full_u32.seq (full_u32.seq (full_u32.seq (full_u32.seq (full_u32.seq
    ((full_bytes 16).seq ((full_bytes 16).seq (full_bytes 16))))))))).as fun _ => rfl

theorem full_feedbackCounters : feedbackCounters.Full :=
  (full_u8.seq (full_u8.seq (full_u8.seq full_u8))).as fun _ => rfl

theorem full_queryInfo : queryInfo.Full :=
  (full_u16.seq (full_u16.seq (full_u32.seq (full_u32.seq
    (full_u32.seq full_feedbackCounters))))).as fun _ => rfl

-- Of a creation only the profile, and of an event only the type, may be written alike
-- with another.
theorem fits_createControllerRequest {request : CreateControllerRequest} :
    createControllerRequest.Fits request ↔
      Profile.ofWord request.requestedProfile.word = request.requestedProfile :=
  ⟨fun h => h.1.2.1.2, fun h => ⟨⟨full_u32 _, ⟨full_u16 _, h⟩, full_u16 _⟩, rfl⟩⟩

theorem fits_feedbackEvent {event : FeedbackEvent} :
    feedbackEvent.Fits event ↔ FeedbackType.ofWord event.type.word = event.type :=
  ⟨fun h => h.1.2.2.1.2,
    fun h => ⟨⟨full_requestHeader _, full_u32 _, ⟨full_u16 _, h⟩, full_u16 _, trivial⟩, rfl⟩⟩

namespace KeyboardMouse

theorem full_keyboardRequest : keyboardRequest.Full :=
  (full_requestHeader.seq (full_u16.seq (full_u8.seq full_u8))).as fun _ => rfl

theorem full_consumerRequest : consumerRequest.Full :=
  (full_requestHeader.seq (full_u16.seq (full_u8.seq full_u8))).as fun _ => rfl

theorem full_buttonRequest : buttonRequest.Full :=
  (full_requestHeader.seq (full_u8.seq (full_u8.seq full_u16))).as fun _ => rfl

theorem full_relativeRequest : relativeRequest.Full :=
  (full_requestHeader.seq (full_i16.seq (full_i16.seq (full_i8.seq
    (full_i8.seq full_u16))))).as fun _ => rfl

theorem full_absoluteRequest : absoluteRequest.Full :=
  (full_requestHeader.seq (full_u16.seq (full_u16.seq full_u32))).as fun _ => rfl

end KeyboardMouse

end Wire

end LibVirtualGamepad
