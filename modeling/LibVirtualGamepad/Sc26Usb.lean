import LibVirtualGamepad.Protocol

-- The wired Steam Controller's USB contract: the state report, the battery report
-- and the feature-report control channel.
namespace LibVirtualGamepad.Sc26Usb

def featuresReportId : UInt8 := 0x01
def featuresReportId2 : UInt8 := 0x02
def mouseReportId : UInt8 := 0x40
def keyboardReportId : UInt8 := 0x41
def inputReportId : UInt8 := 0x42
def batteryReportId : UInt8 := 0x43
def hapticAckReportId : UInt8 := 0x44
def inputReportIdBle : UInt8 := 0x45
def wirelessReportId : UInt8 := 0x79
def reportId7b : UInt8 := 0x7B
def hapticRumbleId : UInt8 := 0x80
def hapticPulseId : UInt8 := 0x81
def hapticCommandId : UInt8 := 0x82
def hapticLfoId : UInt8 := 0x83
def hapticSweepId : UInt8 := 0x84
def hapticScriptId : UInt8 := 0x85
def outputReportId86 : UInt8 := 0x86
def outputReportId87 : UInt8 := 0x87
def outputReportId88 : UInt8 := 0x88
def outputReportId89 : UInt8 := 0x89

abbrev featureReportSize : Nat := 64
def hapticPulseReportSize : Nat := 8

-- Wire size, the id included, of every declared report; zero for other ids.
def reportSize (id : UInt8) : Nat :=
  if id = featuresReportId ∨ id = featuresReportId2 then featureReportSize
  else if id = mouseReportId then 6
  else if id = keyboardReportId then 9
  else if id = inputReportId then 54
  else if id = batteryReportId then 15
  else if id = hapticAckReportId then 6
  else if id = inputReportIdBle then 46
  else if id = wirelessReportId then 2
  else if id = reportId7b then 13
  else if id = hapticRumbleId then 10
  else if id = hapticPulseId then hapticPulseReportSize
  else if id = hapticCommandId then 4
  else if id = hapticLfoId then 10
  else if id = hapticSweepId then 9
  else if id = hapticScriptId then 4
  else if id = outputReportId86 then 4
  else if id = outputReportId87 ∨ id = outputReportId88 ∨ id = outputReportId89 then 64
  else 0

def isOutputReport (id : UInt8) : Bool := hapticRumbleId ≤ id && id ≤ outputReportId89

namespace Button

def a : UInt32 := 0x00000001
def b : UInt32 := 0x00000002
def x : UInt32 := 0x00000004
def y : UInt32 := 0x00000008
def qam : UInt32 := 0x00000010
def r3 : UInt32 := 0x00000020
def view : UInt32 := 0x00000040
def r4 : UInt32 := 0x00000080
def r5 : UInt32 := 0x00000100
def r : UInt32 := 0x00000200
def dpadDown : UInt32 := 0x00000400
def dpadRight : UInt32 := 0x00000800
def dpadLeft : UInt32 := 0x00001000
def dpadUp : UInt32 := 0x00002000
def menu : UInt32 := 0x00004000
def l3 : UInt32 := 0x00008000
def steam : UInt32 := 0x00010000
def l4 : UInt32 := 0x00020000
def l5 : UInt32 := 0x00040000
def l : UInt32 := 0x00080000
def rightStickTouch : UInt32 := 0x00100000
def rightPadTouch : UInt32 := 0x00200000
def rightPadClick : UInt32 := 0x00400000
def rightTriggerClick : UInt32 := 0x00800000
def leftStickTouch : UInt32 := 0x01000000
def leftPadTouch : UInt32 := 0x02000000
def leftPadClick : UInt32 := 0x04000000
def leftTriggerClick : UInt32 := 0x08000000
def rightGripTouch : UInt32 := 0x10000000
def leftGripTouch : UInt32 := 0x20000000

end Button

def chargeDischarging : UInt8 := 1
def chargeCharging : UInt8 := 2
def chargeDone : UInt8 := 4

def gyroCountsPer1000Dps : Int := 16384
def accelCountsPerG : Int := 16384
def milliG : Int := 9807

structure InputReport where
  sequence : UInt8
  buttons : UInt32
  leftTrigger : Int16
  rightTrigger : Int16
  leftX : Int16
  leftY : Int16
  rightX : Int16
  rightY : Int16
  leftPadX : Int16
  leftPadY : Int16
  leftPressure : UInt16
  rightPadX : Int16
  rightPadY : Int16
  rightPressure : UInt16
  imuTimestamp : UInt32
  accel : Int16 × Int16 × Int16
  gyro : Int16 × Int16 × Int16
  quatW : Int16

def leInt16 (value : Int16) : List UInt8 := le16 value.toUInt16

def int16At (bytes : List UInt8) (i : Nat) : Int16 :=
  (UInt16.ofNat ((bytes.getD i 0).toNat + 256 * (bytes.getD (i + 1) 0).toNat)).toInt16

theorem ofNat_bytes (value : UInt16) :
    UInt16.ofNat (value.toUInt8.toNat + 256 * (value >>> 8).toUInt8.toNat) = value := by
  have hlt := value.toNat_lt
  have hlow : value.toUInt8.toNat = value.toNat % 256 := UInt16.toNat_toUInt8 value
  have hshift : (value >>> 8).toNat = value.toNat / 256 := by
    simp [UInt16.toNat_shiftRight, Nat.shiftRight_eq_div_pow]
  have hhigh : (value >>> 8).toUInt8.toNat = value.toNat / 256 := by
    rw [UInt16.toNat_toUInt8, hshift]
    omega
  rw [hlow, hhigh, Nat.mod_add_div]
  exact UInt16.ofNat_toNat

-- Two bytes behind any others read back as the number that was put there.
theorem int16At_leInt16 (front rest : List UInt8) (value : Int16) :
    int16At (front ++ leInt16 value ++ rest) front.length = value := by
  have hlow : (front ++ leInt16 value ++ rest).getD front.length 0 =
      value.toUInt16.toUInt8 := by
    simp [leInt16, le16, List.getD_eq_getElem?_getD]
  have hhigh : (front ++ leInt16 value ++ rest).getD (front.length + 1) 0 =
      (value.toUInt16 >>> 8).toUInt8 := by
    simp [leInt16, le16, List.getD_eq_getElem?_getD]
  rw [int16At, hlow, hhigh, ofNat_bytes, Int16.toInt16_toUInt16]

-- The wire image; the three imaginary parts of the orientation stay zero.
def InputReport.bytes (report : InputReport) : List UInt8 :=
  [inputReportId, report.sequence] ++ le32 report.buttons ++
    leInt16 report.leftTrigger ++ leInt16 report.rightTrigger ++
    leInt16 report.leftX ++ leInt16 report.leftY ++ leInt16 report.rightX ++ leInt16 report.rightY ++
    leInt16 report.leftPadX ++ leInt16 report.leftPadY ++ le16 report.leftPressure ++
    leInt16 report.rightPadX ++ leInt16 report.rightPadY ++ le16 report.rightPressure ++
    le32 report.imuTimestamp ++
    leInt16 report.accel.1 ++ leInt16 report.accel.2.1 ++ leInt16 report.accel.2.2 ++
    leInt16 report.gyro.1 ++ leInt16 report.gyro.2.1 ++ leInt16 report.gyro.2.2 ++
    leInt16 report.quatW ++ List.replicate 6 0

structure BatteryReport where
  chargeState : UInt8
  batteryLevel : UInt8
  batteryVoltageMv : UInt16
  systemVoltageMv : UInt16
  inputVoltageMv : UInt16
  currentMa : UInt16
  inputCurrentMa : UInt16
  temperature : UInt16

def BatteryReport.bytes (report : BatteryReport) : List UInt8 :=
  [batteryReportId, report.chargeState, report.batteryLevel] ++ le16 report.batteryVoltageMv ++
    le16 report.systemVoltageMv ++ le16 report.inputVoltageMv ++ le16 report.currentMa ++
    le16 report.inputCurrentMa ++ le16 report.temperature

-- Pairs are (left, right); sensor triples are the device's x, y and z.
structure State where
  sequence : UInt8
  imuTimestamp : UInt32
  gripTouch : Vector Bool 2
  stickTouch : Vector Bool 2
  padTouched : Vector Bool 2
  padX : Vector UInt16 2
  padY : Vector UInt16 2
  padPressure : Vector UInt16 2
  accel : Int16 × Int16 × Int16
  gyro : Int16 × Int16 × Int16
  batteryPercent : UInt8
  chargeState : UInt8
  stickTouchFromDeflection : Bool
  triggerClickFromAnalog : Bool

def State.initial : State where
  sequence := 0
  imuTimestamp := 0
  gripTouch := Vector.replicate 2 false
  stickTouch := Vector.replicate 2 false
  padTouched := Vector.replicate 2 false
  padX := Vector.replicate 2 0
  padY := Vector.replicate 2 0
  padPressure := Vector.replicate 2 0
  accel := (0, 0, 16384)
  gyro := (0, 0, 0)
  batteryPercent := 100
  chargeState := chargeDischarging
  stickTouchFromDeflection := true
  triggerClickFromAnalog := true

def clampI16 (value : Int) : Int16 :=
  Int16.ofInt (if value > 32767 then 32767 else if value < -32768 then -32768 else value)

def padAxisX (x : UInt16) : Int16 := clampI16 (x.toNat - 32768)
def padAxisY (y : UInt16) : Int16 := clampI16 (32768 - y.toNat)
def padPressure (pressure : UInt16) : UInt16 := pressure >>> 1
def triggerAxis (trigger : UInt8) : Int16 := Int16.ofInt ((trigger.toNat * 32767 : Int).tdiv 255)

def triggerClickThreshold : UInt8 := 0xF0
def stickTouchDeflection : Nat := 3276

def deflected (x y : Int16) : Bool :=
  decide (x.toInt.natAbs > stickTouchDeflection) || decide (y.toInt.natAbs > stickTouchDeflection)

def addBit (bits mask : UInt32) (on : Bool) : UInt32 := if on then bits ||| mask else bits

abbrev State.leftPadTouched (st : State) : Bool := st.padTouched[0]
abbrev State.rightPadTouched (st : State) : Bool := st.padTouched[1]
abbrev State.leftGrip (st : State) : Bool := st.gripTouch[0]
abbrev State.rightGrip (st : State) : Bool := st.gripTouch[1]
abbrev State.leftStick (st : State) : Bool := st.stickTouch[0]
abbrev State.rightStick (st : State) : Bool := st.stickTouch[1]

-- The report's button word: the translated buttons, the analog trigger clicks and
-- the touch bits of the state and of the sticks' deflection.
def inputBits (buttons : UInt32) (leftX leftY rightX rightY : Int16)
    (leftTrigger rightTrigger : UInt8) (st : State) : UInt32 :=
  let bits := buttons
  let bits := addBit bits Button.leftTriggerClick
    (st.triggerClickFromAnalog && leftTrigger ≥ triggerClickThreshold)
  let bits := addBit bits Button.rightTriggerClick
    (st.triggerClickFromAnalog && rightTrigger ≥ triggerClickThreshold)
  let bits := addBit bits Button.leftPadTouch st.padTouched[0]
  let bits := addBit bits Button.rightPadTouch st.padTouched[1]
  let bits := addBit bits Button.leftGripTouch st.gripTouch[0]
  let bits := addBit bits Button.rightGripTouch st.gripTouch[1]
  let bits := addBit bits Button.leftStickTouch st.stickTouch[0]
  let bits := addBit bits Button.rightStickTouch st.stickTouch[1]
  let bits := addBit bits Button.leftStickTouch
    (st.stickTouchFromDeflection && deflected leftX leftY)
  addBit bits Button.rightStickTouch (st.stickTouchFromDeflection && deflected rightX rightY)

def encodeInput (buttons : UInt32) (leftX leftY rightX rightY : Int16)
    (leftTrigger rightTrigger : UInt8) (st : State) : InputReport × State :=
  let left := st.padTouched[0]
  let right := st.padTouched[1]
  ({ sequence := st.sequence
     buttons := inputBits buttons leftX leftY rightX rightY leftTrigger rightTrigger st
     leftTrigger := triggerAxis leftTrigger
     rightTrigger := triggerAxis rightTrigger
     leftX := leftX
     leftY := leftY
     rightX := rightX
     rightY := rightY
     leftPadX := if left then padAxisX st.padX[0] else 0
     leftPadY := if left then padAxisY st.padY[0] else 0
     leftPressure := if left then padPressure st.padPressure[0] else 0
     rightPadX := if right then padAxisX st.padX[1] else 0
     rightPadY := if right then padAxisY st.padY[1] else 0
     rightPressure := if right then padPressure st.padPressure[1] else 0
     imuTimestamp := st.imuTimestamp
     accel := st.accel
     gyro := st.gyro
     quatW := 32767 },
    { st with sequence := st.sequence + 1 })

-- The button word a report is classified on: bits derived from stick deflection
-- are left out, a client's own stick-touch bits stay in.
def classifyButtons (st : State) (buttons : UInt32) : UInt32 :=
  if st.stickTouchFromDeflection then
    buttons &&& ~~~(Button.leftStickTouch ||| Button.rightStickTouch)
  else
    buttons

-- Sensor x is the device's x, sensor y its z and sensor z its negated y.
def applyAccelMilli (st : State) (x y z : Int32) : State :=
  let convert (milli : Int) := clampI16 ((milli * accelCountsPerG).tdiv milliG)
  { st with accel := (convert x.toInt, convert (-z.toInt), convert y.toInt) }

def applyGyroMilli (st : State) (x y z : Int32) : State :=
  let convert (milli : Int) := clampI16 ((milli * gyroCountsPer1000Dps).tdiv 1000000)
  { st with gyro := (convert x.toInt, convert (-z.toInt), convert y.toInt) }

def encodeBattery (st : State) : BatteryReport :=
  let level := if st.batteryPercent > 100 then 100 else st.batteryPercent
  let onUsb := st.chargeState == chargeCharging || st.chargeState == chargeDone
  { chargeState := st.chargeState
    batteryLevel := level
    batteryVoltageMv := UInt16.ofNat (3522 + level.toNat * 6)
    systemVoltageMv := 4160
    inputVoltageMv := if onUsb then 4980 else 0
    currentMa := if onUsb then 157 else 0
    inputCurrentMa := if onUsb then 239 else 0
    temperature := 0x76ED }

def getLe16 (low high : UInt8) : UInt16 := low.toUInt16 ||| (high.toUInt16 <<< 8)

-- The answer to a pulse report that repeats nothing: one side's stop.
def encodeHapticAck (data : List UInt8) : Option (List UInt8) :=
  if data.length < hapticPulseReportSize ∨ data.getD 0 0 ≠ hapticPulseId then
    none
  else if getLe16 (data.getD 2 0) (data.getD 3 0) ≠ 0 ∨
      getLe16 (data.getD 4 0) (data.getD 5 0) ≠ 0 ∨
      getLe16 (data.getD 6 0) (data.getD 7 0) ≠ 0 then
    none
  else
    some [hapticAckReportId, if data.getD 1 0 = 0 then 0x04 else 0x03, 0x02, 0, 0, 0]

end LibVirtualGamepad.Sc26Usb
