import LibVirtualGamepad.Playstation

namespace LibVirtualGamepad

structure Ds5State where
  features : Playstation.FeatureState
  sequence : UInt8
  sensorTimestamp : UInt32
  battery : Playstation.Battery
  motion : Playstation.Motion
  contacts : Playstation.Contacts

def Ds5State.initial : Ds5State where
  features := ⟨#v[0, 0x53, 0x50, 0x47, 0x56, 0x02], true⟩
  sequence := 0
  sensorTimestamp := 0
  battery := ⟨5, false, false⟩
  motion := .initial
  contacts := .initial

namespace DualSense

open Playstation

def inputReportId : UInt8 := 0x01
def outputReportId : UInt8 := 0x02
def outputReportIdBt : UInt8 := 0x31
def calibrationId : UInt8 := 0x05
def controlId : UInt8 := 0x08
def pairingId : UInt8 := 0x09
def firmwareId : UInt8 := 0x20

def touchWidth : Nat := 1920
def touchHeight : Nat := 1080

def flag0CompatibleVibration : UInt8 := 0x01
def flag0RightTriggerEffect : UInt8 := 0x04
def flag0LeftTriggerEffect : UInt8 := 0x08
def flag1MicMuteLed : UInt8 := 0x01
def flag1Lightbar : UInt8 := 0x04
def flag1PlayerIndicator : UInt8 := 0x10
def flag2CompatibleVibration : UInt8 := 0x04

end DualSense

structure Ds5InputReport where
  leftX : UInt8
  leftY : UInt8
  rightX : UInt8
  rightY : UInt8
  leftTrigger : UInt8
  rightTrigger : UInt8
  sequence : UInt8
  buttons : UInt8 × UInt8 × UInt8
  motion : Playstation.Motion
  sensorTimestamp : UInt32
  points : List UInt8
  status : UInt8

def Ds5InputReport.bytes (report : Ds5InputReport) : List UInt8 :=
  [DualSense.inputReportId, report.leftX, report.leftY, report.rightX, report.rightY,
    report.leftTrigger, report.rightTrigger, report.sequence,
    report.buttons.1, report.buttons.2.1, report.buttons.2.2, 0] ++ List.replicate 4 0 ++
    Playstation.axisBytes report.motion.gyro ++ Playstation.axisBytes report.motion.accel ++
    le32 report.sensorTimestamp ++ [0] ++ report.points ++ List.replicate 12 0 ++
    [report.status] ++ List.replicate 10 0

namespace DualSense

open Playstation

-- A full battery wins over the charging bit.
def batteryStatus (battery : Battery) : UInt8 :=
  if battery.full then 0x20 ||| 0x0A
  else addBit8 (battery.level &&& 0x0F) 0x10 battery.cableConnected

def encodeDs5Input (input : InputStateRequest) (state : Ds5State) (nowUs : UInt64) :
    Ds5InputReport × Ds5State :=
  let state := { state with
    sequence := state.sequence + 1
    sensorTimestamp := if nowUs ≠ 0 then (nowUs * 3).toUInt32 else state.sensorTimestamp + 1333 }
  let buttons2 := addBit8 0 0x01 (hasAny input.buttons ButtonMask.home)
  let buttons2 := addBit8 buttons2 0x02 (hasAny input.buttons ButtonMask.touchpad)
  let buttons2 := addBit8 buttons2 0x04 (hasAny input.buttons ButtonMask.misc)
  ({ leftX := toStick input.leftX
     leftY := toStickInverted input.leftY
     rightX := toStick input.rightX
     rightY := toStickInverted input.rightY
     leftTrigger := input.leftTrigger
     rightTrigger := input.rightTrigger
     sequence := state.sequence
     buttons := (faceButtons input.buttons, shoulderButtons input, buttons2)
     motion := state.motion
     sensorTimestamp := state.sensorTimestamp
     points := state.contacts.points touchWidth touchHeight
     status := batteryStatus state.battery },
    state)

def applyDs5Touch (touch : TouchStateRequest) (state : Ds5State) : Bool × Ds5State :=
  let (applied, contacts) := state.contacts.apply touch
  (applied, { state with contacts := contacts })

def applyDs5Motion (motion : MotionStateRequest) (state : Ds5State) : Bool × Ds5State :=
  let (applied, next) := state.motion.apply motion
  (applied, { state with motion := next })

def applyDs5Battery (battery : BatteryStateRequest) (state : Ds5State) : Bool × Ds5State :=
  (true, { state with battery := state.battery.apply battery })

structure Ds5OutputReport where
  reportId : UInt8
  validFlag0 : UInt8
  validFlag1 : UInt8
  motorRight : UInt8
  motorLeft : UInt8
  muteButtonLed : UInt8
  rightTrigger : TriggerEffectFeedback
  leftTrigger : TriggerEffectFeedback
  validFlag2 : UInt8
  playerLeds : UInt8
  lightbarRed : UInt8
  lightbarGreen : UInt8
  lightbarBlue : UInt8

def outputReportBytes : Nat := 48

def Ds5OutputReport.ofBytes (bytes : List UInt8) : Ds5OutputReport where
  reportId := bytes.getD 0 0
  validFlag0 := bytes.getD 1 0
  validFlag1 := bytes.getD 2 0
  motorRight := bytes.getD 3 0
  motorLeft := bytes.getD 4 0
  muteButtonLed := bytes.getD 9 0
  rightTrigger := ⟨bytes.getD 11 0, Vector.ofFn fun i => bytes.getD (12 + i) 0⟩
  leftTrigger := ⟨bytes.getD 22 0, Vector.ofFn fun i => bytes.getD (23 + i) 0⟩
  validFlag2 := bytes.getD 39 0
  playerLeds := bytes.getD 44 0
  lightbarRed := bytes.getD 45 0
  lightbarGreen := bytes.getD 46 0
  lightbarBlue := bytes.getD 47 0

-- Only the groups the report enables are replaced, each trigger on its own.
def applyDs5Output (output : Ds5OutputReport) (feedback : PlaystationOutputFeedback) :
    Bool × PlaystationOutputFeedback :=
  if output.reportId ≠ outputReportId then
    (false, feedback)
  else
    let feedback := if output.validFlag0 &&& flag0CompatibleVibration ≠ 0 ∨
        output.validFlag2 &&& flag2CompatibleVibration ≠ 0 then
      { feedback with
        lowFrequency := output.motorLeft.toUInt16 <<< 8
        highFrequency := output.motorRight.toUInt16 <<< 8 } else feedback
    let feedback := if output.validFlag1 &&& flag1Lightbar ≠ 0 then
      { feedback with
        red := output.lightbarRed
        green := output.lightbarGreen
        blue := output.lightbarBlue
        valid := feedback.valid ||| psOutputLightbarValid } else feedback
    let feedback := if output.validFlag1 &&& flag1PlayerIndicator ≠ 0 then
      { feedback with
        playerLeds := output.playerLeds
        valid := feedback.valid ||| psOutputPlayerLedsValid } else feedback
    let feedback := if output.validFlag1 &&& flag1MicMuteLed ≠ 0 then
      { feedback with
        microphoneLed := output.muteButtonLed
        valid := feedback.valid ||| psOutputMicrophoneLedValid } else feedback
    let feedback := if output.validFlag0 &&& flag0LeftTriggerEffect ≠ 0 then
      { feedback with
        leftTrigger := output.leftTrigger
        valid := feedback.valid ||| psOutputTriggersValid } else feedback
    let feedback := if output.validFlag0 &&& flag0RightTriggerEffect ≠ 0 then
      { feedback with
        rightTrigger := output.rightTrigger
        valid := feedback.valid ||| psOutputTriggersValid } else feedback
    (true, feedback)

def calibration : List UInt8 :=
  [5, 0, 0, 0, 0, 0, 0,
    0, 0x20, 0, 0xE0, 0, 0x20, 0, 0xE0, 0, 0x20, 0, 0xE0,
    0, 2, 0, 2,
    0, 0x20, 0, 0xE0, 0, 0x20, 0, 0xE0, 0, 0x20, 0, 0xE0,
    0, 0, 0, 0, 0, 0]

def firmware : List UInt8 :=
  [firmwareId] ++ ("Jun 19 202314:47:34".toList.map fun c => UInt8.ofNat c.toNat) ++
    [0x03, 0x00, 0x44, 0x00, 0x08, 0x02, 0x00, 0x01,
      0x3E, 0x00, 0x00, 0x01,
      0xC1, 0xC8, 0x00, 0x00, 0x00, 0x00, 0x00, 0x00, 0x00, 0x00, 0x00, 0x00,
      0x30, 0x06, 0x00, 0x00, 0x14, 0x00, 0x00, 0x00,
      0x0B, 0x00, 0x01, 0x00, 0x06, 0x00, 0x00, 0x00, 0x00, 0x00, 0x00, 0x00]

def fillDs5Feature (reportId : UInt8) (capacity : Nat) (state : FeatureState) :
    Option (List UInt8) :=
  if reportId = calibrationId then
    answerFeature calibration calibration.length capacity
  else if reportId = pairingId then
    answerFeature (fillPairing pairingId state.address) 20 capacity
  else if reportId = firmwareId then
    answerFeature firmware firmware.length capacity
  else
    none

def setDs5Feature (id : UInt8) (buffer : Option (List UInt8)) (state : FeatureState) :
    Bool × FeatureState :=
  setFeature controlId 48 id buffer state

end DualSense

end LibVirtualGamepad
