import LibVirtualGamepad.Playstation

namespace LibVirtualGamepad

structure Ds4State where
  features : Playstation.FeatureState
  reportCounter : UInt8
  timestamp : UInt16
  touchTimestamp : UInt8
  battery : Playstation.Battery
  motion : Playstation.Motion
  contacts : Playstation.Contacts

namespace DualShock4

open Playstation

def inputReportId : UInt8 := 0x01
def outputReportId : UInt8 := 0x05
def calibrationId : UInt8 := 0x02
def pairingId : UInt8 := 0x12
def controlId : UInt8 := 0x14
def firmwareId : UInt8 := 0xA3

def touchWidth : Nat := 1920
def touchHeight : Nat := 942

end DualShock4

def Ds4State.initial : Ds4State where
  features := ⟨#v[0x44, 0x41, 0x50, 0x47, 0x56, 0x02], true⟩
  reportCounter := 0
  timestamp := 0
  touchTimestamp := 0
  battery := ⟨8, false, false⟩
  motion := .initial
  contacts := .initial

structure Ds4InputReport where
  leftX : UInt8
  leftY : UInt8
  rightX : UInt8
  rightY : UInt8
  buttons0 : UInt8
  buttons1 : UInt8
  buttons2 : UInt8
  leftTrigger : UInt8
  rightTrigger : UInt8
  timestamp : UInt16
  battery : UInt8
  motion : Playstation.Motion
  batteryStatus : UInt8
  touchPacketCount : UInt8
  touchTimestamp : UInt8
  points : List UInt8

-- The two older touch packets stay zero.
def Ds4InputReport.bytes (report : Ds4InputReport) : List UInt8 :=
  [DualShock4.inputReportId, report.leftX, report.leftY, report.rightX, report.rightY,
    report.buttons0, report.buttons1, report.buttons2, report.leftTrigger, report.rightTrigger] ++
    le16 report.timestamp ++ [report.battery] ++
    Playstation.axisBytes report.motion.gyro ++ Playstation.axisBytes report.motion.accel ++
    List.replicate 5 0 ++ [report.batteryStatus] ++ List.replicate 2 0 ++
    [report.touchPacketCount, report.touchTimestamp] ++ report.points ++ List.replicate 21 0

namespace DualShock4

open Playstation

def batteryStatus (battery : Battery) : UInt8 :=
  if battery.full && battery.cableConnected then 0x1B
  else addBit8 (battery.level &&& 0x0F) 0x10 battery.cableConnected

-- The six-bit report counter above the two button bits.
def counterBits (counter : UInt8) : UInt8 := counter <<< 2

-- The sensor clock follows the driver clock, and a fixed step without one.
def encodeDs4Input (input : InputStateRequest) (state : Ds4State) (nowUs : UInt64) :
    Ds4InputReport × Ds4State :=
  let state := { state with
    reportCounter := (state.reportCounter + 1) &&& 0x3F
    timestamp := if nowUs ≠ 0 then (nowUs * 3 / 16).toUInt16 else state.timestamp + 188
    touchTimestamp := state.touchTimestamp + 1 }
  let buttons2 := addBit8 0 0x01 (hasAny input.buttons ButtonMask.home)
  let buttons2 := addBit8 buttons2 0x02
    (hasAny input.buttons (ButtonMask.touchpad ||| ButtonMask.misc))
  ({ leftX := toStick input.leftX
     leftY := toStickInverted input.leftY
     rightX := toStick input.rightX
     rightY := toStickInverted input.rightY
     buttons0 := faceButtons input.buttons
     buttons1 := shoulderButtons input
     buttons2 := buttons2 ||| counterBits state.reportCounter
     leftTrigger := input.leftTrigger
     rightTrigger := input.rightTrigger
     timestamp := state.timestamp
     battery := state.battery.level
     motion := state.motion
     batteryStatus := batteryStatus state.battery
     touchPacketCount := 1
     touchTimestamp := state.touchTimestamp
     points := state.contacts.points touchWidth touchHeight },
    state)

def applyDs4Touch (touch : TouchStateRequest) (state : Ds4State) : Bool × Ds4State :=
  let (applied, contacts) := state.contacts.apply touch
  (applied, { state with contacts := contacts })

def applyDs4Motion (motion : MotionStateRequest) (state : Ds4State) : Bool × Ds4State :=
  let (applied, next) := state.motion.apply motion
  (applied, { state with motion := next })

def applyDs4Battery (battery : BatteryStateRequest) (state : Ds4State) : Bool × Ds4State :=
  (true, { state with battery := state.battery.apply battery })

structure Ds4OutputReport where
  reportId : UInt8
  flags : UInt8
  rightRumble : UInt8
  leftRumble : UInt8
  red : UInt8
  green : UInt8
  blue : UInt8

def outputReportBytes : Nat := 32

def Ds4OutputReport.ofBytes (bytes : List UInt8) : Ds4OutputReport where
  reportId := bytes.getD 0 0
  flags := bytes.getD 1 0
  rightRumble := bytes.getD 4 0
  leftRumble := bytes.getD 5 0
  red := bytes.getD 6 0
  green := bytes.getD 7 0
  blue := bytes.getD 8 0

-- Only the groups the report enables are replaced.
def applyDs4Output (output : Ds4OutputReport) (feedback : PlaystationOutputFeedback) :
    Bool × PlaystationOutputFeedback :=
  if output.reportId ≠ outputReportId then
    (false, feedback)
  else
    let feedback := if output.flags &&& 0x01 ≠ 0 then
      { feedback with
        lowFrequency := output.leftRumble.toUInt16 <<< 8
        highFrequency := output.rightRumble.toUInt16 <<< 8 } else feedback
    let feedback := if output.flags &&& 0x02 ≠ 0 then
      { feedback with
        red := output.red
        green := output.green
        blue := output.blue
        valid := feedback.valid ||| psOutputLightbarValid } else feedback
    (true, feedback)

def calibration : List UInt8 :=
  [0x02, 0, 0, 0, 0, 0, 0,
    0x00, 0x20, 0x00, 0xE0, 0x00, 0x20, 0x00, 0xE0, 0x00, 0x20, 0x00, 0xE0,
    0x00, 0x02, 0x00, 0x02,
    0x00, 0x20, 0x00, 0xE0, 0x00, 0x20, 0x00, 0xE0, 0x00, 0x20, 0x00, 0xE0,
    0, 0]

def firmware : List UInt8 :=
  [firmwareId] ++ List.replicate 33 0 ++ [0x01, 0, 0x43, 0x03, 0, 0, 0, 0x51, 0, 0x05, 0, 0, 0x80,
    0x03, 0]

def fillDs4Feature (reportId : UInt8) (capacity : Nat) (state : FeatureState) :
    Option (List UInt8) :=
  if reportId = calibrationId then
    answerFeature calibration calibration.length capacity
  else if reportId = pairingId then
    answerFeature (fillPairing pairingId state.address) 16 capacity
  else if reportId = controlId then
    answerFeature [controlId, if state.sensorsEnabled then 0x02 else 0] 17 capacity
  else if reportId = firmwareId then
    answerFeature firmware firmware.length capacity
  else
    none

def setDs4Feature (id : UInt8) (buffer : Option (List UInt8)) (state : FeatureState) :
    Bool × FeatureState :=
  setFeature controlId 17 id buffer state

end DualShock4

end LibVirtualGamepad
