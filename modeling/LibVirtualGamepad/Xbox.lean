import LibVirtualGamepad.Protocol

namespace LibVirtualGamepad

structure XboxSeriesInputReport where
  leftX : UInt16
  leftY : UInt16
  rightX : UInt16
  rightY : UInt16
  leftTrigger : UInt16
  rightTrigger : UInt16
  hat : UInt8
  buttons : UInt16
  share : UInt8

structure XboxSeriesOutputReport where
  reportId : UInt8
  enableMask : UInt8
  leftTriggerMotor : UInt8
  rightTriggerMotor : UInt8
  leftMotor : UInt8
  rightMotor : UInt8

namespace Xbox

def inputReportId : UInt8 := 1
def outputReportId : UInt8 := 3
def triggerMax : Nat := 1023
def rumbleMax : UInt8 := 100
def enableRightTrigger : UInt8 := 0x01
def enableLeftTrigger : UInt8 := 0x02
def enableRightMotor : UInt8 := 0x04
def enableLeftMotor : UInt8 := 0x08
def outputReportBytes : Nat := 9

-- Clockwise from up and counted from one; zero when released or contradictory.
def encodeHat (buttons : UInt32) : UInt8 :=
  let up := hasAny buttons ButtonMask.dpadUp
  let down := hasAny buttons ButtonMask.dpadDown
  let left := hasAny buttons ButtonMask.dpadLeft
  let right := hasAny buttons ButtonMask.dpadRight
  if (up && down) || (left && right) then 0
  else if up then (if right then 2 else if left then 8 else 1)
  else if down then (if right then 4 else if left then 6 else 5)
  else if right then 3
  else if left then 7
  else 0

-- The device leaves bits 2, 5, 8 and 9 unpopulated.
def buttonMap : List (UInt32 × UInt16) :=
  [(ButtonMask.south, 0x0001),
    (ButtonMask.east, 0x0002),
    (ButtonMask.west, 0x0008),
    (ButtonMask.north, 0x0010),
    (ButtonMask.leftShoulder, 0x0040),
    (ButtonMask.rightShoulder, 0x0080),
    (ButtonMask.back, 0x0400),
    (ButtonMask.start, 0x0800),
    (ButtonMask.home, 0x1000),
    (ButtonMask.leftStick, 0x2000),
    (ButtonMask.rightStick, 0x4000)]

def mapButtons (buttons : UInt32) : UInt16 :=
  buttonMap.foldl (fun mapped pair => if hasAny buttons pair.1 then mapped ||| pair.2 else mapped) 0

def toUnsignedAxis (value : Int16) : UInt16 := UInt16.ofInt (value.toInt + 32768)
def toUnsignedVerticalAxis (value : Int16) : UInt16 := UInt16.ofInt (32767 - value.toInt)
def toTrigger (value : UInt8) : UInt16 := UInt16.ofNat (value.toNat * triggerMax / 255)

def fromRumblePercent (value : UInt8) : UInt16 :=
  let clamped := if value > rumbleMax then rumbleMax else value
  UInt16.ofNat (clamped.toNat * 65535 / rumbleMax.toNat)

def encodeXboxSeriesInput (input : InputStateRequest) : XboxSeriesInputReport where
  leftX := toUnsignedAxis input.leftX
  leftY := toUnsignedVerticalAxis input.leftY
  rightX := toUnsignedAxis input.rightX
  rightY := toUnsignedVerticalAxis input.rightY
  leftTrigger := toTrigger input.leftTrigger
  rightTrigger := toTrigger input.rightTrigger
  hat := encodeHat input.buttons
  buttons := mapButtons input.buttons
  share := if hasAny input.buttons (ButtonMask.misc ||| ButtonMask.touchpad) then 1 else 0

-- The Xbox One report is the Series report without its last byte.
def xboxOneBytes (report : XboxSeriesInputReport) : List UInt8 :=
  [inputReportId] ++ le16 report.leftX ++ le16 report.leftY ++ le16 report.rightX ++
    le16 report.rightY ++ le16 report.leftTrigger ++ le16 report.rightTrigger ++ [report.hat] ++
    le16 report.buttons

def xboxSeriesBytes (report : XboxSeriesInputReport) : List UInt8 :=
  xboxOneBytes report ++ [report.share]

end Xbox

def XboxSeriesOutputReport.ofBytes (bytes : List UInt8) : XboxSeriesOutputReport where
  reportId := bytes.getD 0 0
  enableMask := bytes.getD 1 0
  leftTriggerMotor := bytes.getD 2 0
  rightTriggerMotor := bytes.getD 3 0
  leftMotor := bytes.getD 4 0
  rightMotor := bytes.getD 5 0

namespace Xbox

-- An actuator the report does not enable reads as silent.
def decodeXboxSeriesOutput (output : XboxSeriesOutputReport) : Option XboxRumbleFeedback :=
  if output.reportId ≠ outputReportId then
    none
  else
    let enabled (mask value : UInt8) : UInt16 :=
      if output.enableMask &&& mask ≠ 0 then fromRumblePercent value else 0
    some
      { lowFrequency := enabled enableLeftMotor output.leftMotor
        highFrequency := enabled enableRightMotor output.rightMotor
        leftTrigger := enabled enableLeftTrigger output.leftTriggerMotor
        rightTrigger := enabled enableRightTrigger output.rightTriggerMotor }

def encodeXboxSeriesFeedback (controllerId : UInt32) (rumble : XboxRumbleFeedback) :
    FeedbackEvent :=
  .make controllerId .xboxRumble rumble.bytes

end Xbox

end LibVirtualGamepad
