import Mathlib.Algebra.Order.Ring.Int
import Mathlib.Data.Int.Bitwise
import Mathlib.Tactic.Common

namespace LibVirtualGamepad

-- Decided along the list, and not over all values of a fixed-width type.
theorem forall_mem_of_all {α : Type} {p : α → Prop} [DecidablePred p] {l : List α}
    (h : l.all (fun x => decide (p x)) = true) : ∀ x ∈ l, p x := by
  intro x hx
  exact of_decide_eq_true (List.all_eq_true.1 h x hx)

def protocolVersion : UInt16 := 2
def maxControllers : Nat := 16

-- A controller id that names a slot.
abbrev ControllerId := Fin maxControllers

-- The last constructor stands for the values the enumeration does not name,
-- among them the zero a cleared slot holds.
inductive Profile where
  | genericHid
  | xbox360
  | xboxOne
  | xboxSeries
  | dualshock4
  | dualsense
  | switchPro
  | genericPid
  | steamController
  | other (raw : UInt16)
  deriving DecidableEq

namespace ButtonMask

def dpadUp : UInt32 := 0x000001
def dpadDown : UInt32 := 0x000002
def dpadLeft : UInt32 := 0x000004
def dpadRight : UInt32 := 0x000008
def start : UInt32 := 0x000010
def back : UInt32 := 0x000020
def leftStick : UInt32 := 0x000040
def rightStick : UInt32 := 0x000080
def leftShoulder : UInt32 := 0x000100
def rightShoulder : UInt32 := 0x000200
def home : UInt32 := 0x000400
def south : UInt32 := 0x001000
def east : UInt32 := 0x002000
def west : UInt32 := 0x004000
def north : UInt32 := 0x008000
def paddle1 : UInt32 := 0x010000
def paddle2 : UInt32 := 0x020000
def paddle3 : UInt32 := 0x040000
def paddle4 : UInt32 := 0x080000
def touchpad : UInt32 := 0x100000
def misc : UInt32 := 0x200000
def leftGripTouch : UInt32 := 0x400000
def rightGripTouch : UInt32 := 0x800000
def leftStickTouch : UInt32 := 0x1000000
def rightStickTouch : UInt32 := 0x2000000
def leftPadClick : UInt32 := 0x04000000
def rightPadClick : UInt32 := 0x08000000
def leftTriggerClick : UInt32 := 0x10000000
def rightTriggerClick : UInt32 := 0x20000000
def sc26ButtonsExplicit : UInt32 := 0x40000000

end ButtonMask

-- Whether a button word has any bit of the mask.
def hasAny (buttons mask : UInt32) : Bool := buttons &&& mask != 0

inductive FeedbackType where
  | none
  | genericRumbleRgb
  | rawOutputReport
  | genericRumble
  | xboxRumble
  | playstationOutput
  | steamHaptic
  | steamSettings
  | other (raw : UInt16)
  deriving DecidableEq

structure RequestHeader where
  size : UInt32
  version : UInt16
  reserved : UInt16
  deriving DecidableEq

structure CreateControllerRequest where
  controllerId : UInt32
  requestedProfile : Profile
  reserved : UInt16
  deriving DecidableEq

structure InputStateRequest where
  controllerId : UInt32
  buttons : UInt32
  leftX : Int16
  leftY : Int16
  rightX : Int16
  rightY : Int16
  leftTrigger : UInt8
  rightTrigger : UInt8
  reserved : UInt16
  deriving DecidableEq

def InputStateRequest.zero : InputStateRequest := ⟨0, 0, 0, 0, 0, 0, 0, 0, 0⟩

inductive TouchEvent where
  | hover
  | down
  | up
  | move
  | cancel
  | cancelAll
  | other (raw : UInt8)
  deriving DecidableEq

-- The cast of a request's event byte.
def TouchEvent.ofByte (raw : UInt8) : TouchEvent :=
  if raw = 0 then .hover
  else if raw = 1 then .down
  else if raw = 2 then .up
  else if raw = 3 then .move
  else if raw = 4 then .cancel
  else if raw = 5 then .cancelAll
  else .other raw

inductive MotionKind where
  | accelerometer
  | gyroscope
  | other (raw : UInt8)
  deriving DecidableEq

def MotionKind.ofByte (raw : UInt8) : MotionKind :=
  if raw = 1 then .accelerometer
  else if raw = 2 then .gyroscope
  else .other raw

inductive BatteryState where
  | unknown
  | notPresent
  | discharging
  | charging
  | full
  | notCharging
  | other (raw : UInt8)
  deriving DecidableEq

def BatteryState.ofByte (raw : UInt8) : BatteryState :=
  if raw = 0 then .unknown
  else if raw = 1 then .notPresent
  else if raw = 2 then .discharging
  else if raw = 3 then .charging
  else if raw = 4 then .full
  else if raw = 5 then .notCharging
  else .other raw

structure TouchStateRequest where
  controllerId : UInt32
  contactIndex : UInt8
  eventType : UInt8
  x : UInt16
  y : UInt16
  pressure : UInt16
  reserved : UInt16
  deriving DecidableEq

structure MotionStateRequest where
  controllerId : UInt32
  motionType : UInt8
  reserved0 : UInt8 × UInt8 × UInt8
  xMilli : Int32
  yMilli : Int32
  zMilli : Int32
  deriving DecidableEq

structure BatteryStateRequest where
  controllerId : UInt32
  percent : UInt8
  flags : UInt8
  reserved : UInt16
  deriving DecidableEq

structure SteamControllerAttributesRequest where
  controllerId : UInt32
  flags : UInt32
  firmwareBuildTime : UInt32
  bootloaderBuildTime : UInt32
  boardRevision : UInt32
  capabilities : UInt32
  buildId : Vector UInt8 16
  unitSerial : Vector UInt8 16
  boardSerial : Vector UInt8 16
  deriving DecidableEq

-- Little-endian bytes of the fixed-width fields.
def le16 (value : UInt16) : List UInt8 := [value.toUInt8, (value >>> 8).toUInt8]
def le32 (value : UInt32) : List UInt8 := le16 value.toUInt16 ++ le16 (value >>> 16).toUInt16

abbrev feedbackPayloadBytes : Nat := 32
def feedbackEventBytes : UInt32 := 48

structure FeedbackEvent where
  header : RequestHeader
  controllerId : UInt32
  type : FeedbackType
  payloadSize : UInt16
  payload : Vector UInt8 feedbackPayloadBytes
  deriving DecidableEq

namespace FeedbackEvent

def zero : FeedbackEvent := ⟨⟨0, 0, 0⟩, 0, .none, 0, Vector.replicate _ 0⟩

-- A cleared event, its header filled in and `bytes` copied to the start of the
-- payload.
def make (controllerId : UInt32) (type : FeedbackType) (bytes : List UInt8) : FeedbackEvent where
  header := ⟨feedbackEventBytes, protocolVersion, 0⟩
  controllerId := controllerId
  type := type
  payloadSize := UInt16.ofNat bytes.length
  payload := Vector.ofFn fun i => bytes.getD i 0

end FeedbackEvent

structure XboxRumbleFeedback where
  lowFrequency : UInt16
  highFrequency : UInt16
  leftTrigger : UInt16
  rightTrigger : UInt16
  deriving DecidableEq

def XboxRumbleFeedback.bytes (feedback : XboxRumbleFeedback) : List UInt8 :=
  le16 feedback.lowFrequency ++ le16 feedback.highFrequency ++ le16 feedback.leftTrigger ++
    le16 feedback.rightTrigger

structure GenericRumbleRgbFeedback where
  lowFrequency : UInt16
  highFrequency : UInt16
  red : UInt8
  green : UInt8
  blue : UInt8
  deriving DecidableEq

def GenericRumbleRgbFeedback.bytes (feedback : GenericRumbleRgbFeedback) : List UInt8 :=
  le16 feedback.lowFrequency ++ le16 feedback.highFrequency ++
    [feedback.red, feedback.green, feedback.blue, 0]

structure TriggerEffectFeedback where
  mode : UInt8
  parameters : Vector UInt8 10
  deriving DecidableEq

def TriggerEffectFeedback.zero : TriggerEffectFeedback := ⟨0, Vector.replicate _ 0⟩

structure PlaystationOutputFeedback where
  lowFrequency : UInt16
  highFrequency : UInt16
  red : UInt8
  green : UInt8
  blue : UInt8
  valid : UInt8
  playerLeds : UInt8
  microphoneLed : UInt8
  leftTrigger : TriggerEffectFeedback
  rightTrigger : TriggerEffectFeedback
  deriving DecidableEq

def PlaystationOutputFeedback.zero : PlaystationOutputFeedback :=
  ⟨0, 0, 0, 0, 0, 0, 0, 0, .zero, .zero⟩

def PlaystationOutputFeedback.bytes (feedback : PlaystationOutputFeedback) : List UInt8 :=
  le16 feedback.lowFrequency ++ le16 feedback.highFrequency ++
    [feedback.red, feedback.green, feedback.blue, feedback.valid, feedback.playerLeds,
      feedback.microphoneLed, feedback.leftTrigger.mode] ++
    feedback.leftTrigger.parameters.toList ++ [feedback.rightTrigger.mode] ++
    feedback.rightTrigger.parameters.toList

def psOutputLightbarValid : UInt8 := 0x01
def psOutputTriggersValid : UInt8 := 0x02
def psOutputPlayerLedsValid : UInt8 := 0x04
def psOutputMicrophoneLedValid : UInt8 := 0x08

abbrev steamHapticReportBytes : Nat := 12

-- `length` bytes of `report` are valid, its id included.
structure SteamHapticFeedback where
  length : UInt8
  report : Vector UInt8 steamHapticReportBytes
  deriving DecidableEq

namespace SteamHapticFeedback

def size : UInt16 := 16

-- Three reserved bytes stand between the length and the report.
def bytes (feedback : SteamHapticFeedback) : List UInt8 :=
  [feedback.length, 0, 0, 0] ++ feedback.report.toList

def ofPayload (payload : Vector UInt8 feedbackPayloadBytes) : SteamHapticFeedback where
  length := payload[0]
  report := Vector.ofFn fun i =>
    payload[(⟨4 + i.val, by
      have hi := i.isLt
      unfold steamHapticReportBytes at hi
      unfold feedbackPayloadBytes
      omega⟩ : Fin feedbackPayloadBytes)]

end SteamHapticFeedback

abbrev steamSettingsTriplesMax : Nat := 9

-- `count` (id, lo, hi) triples of `triples` are valid.
structure SteamSettingsFeedback where
  command : UInt8
  count : UInt8
  triples : Vector UInt8 (steamSettingsTriplesMax * 3)
  deriving DecidableEq

namespace SteamSettingsFeedback

-- Three reserved bytes stand between the count and the triples.
def bytes (feedback : SteamSettingsFeedback) : List UInt8 :=
  [feedback.command, feedback.count, 0, 0, 0] ++ feedback.triples.toList

def ofPayload (payload : Vector UInt8 feedbackPayloadBytes) : SteamSettingsFeedback where
  command := payload[0]
  count := payload[1]
  triples := Vector.ofFn fun i =>
    payload[(⟨5 + i.val, by
      have hi := i.isLt
      unfold steamSettingsTriplesMax at hi
      unfold feedbackPayloadBytes
      omega⟩ : Fin feedbackPayloadBytes)]

end SteamSettingsFeedback

end LibVirtualGamepad
