import LibVirtualGamepad.ReportPump
import LibVirtualGamepad.Sc26Usb

namespace LibVirtualGamepad

structure SwitchState where
  timer : UInt8
  batteryLevel : UInt8
  cableConnected : Bool
  charging : Bool
  gyro : Int16 × Int16 × Int16
  accel : Int16 × Int16 × Int16
  playerLights : UInt8
  imuEnabled : Bool
  vibrationEnabled : Bool
  handshakeComplete : Bool

def SwitchState.initial : SwitchState where
  timer := 0
  batteryLevel := 8
  cableConnected := true
  charging := false
  gyro := (0, 0, 0)
  accel := (0, 0, 4096)
  playerLights := 0x01
  imuEnabled := false
  vibrationEnabled := false
  handshakeComplete := false

structure SwitchInputReport where
  timer : UInt8
  connectionBattery : UInt8
  buttonsRight : UInt8
  buttonsShared : UInt8
  buttonsLeft : UInt8
  leftStick : List UInt8
  rightStick : List UInt8
  vibratorReport : UInt8
  imu : List UInt8

structure SwitchSubcommandReply where
  input : SwitchInputReport
  ack : UInt8
  subcommand : UInt8
  data : List UInt8

namespace SwitchPro

def inputReportId : UInt8 := 0x30
def subcommandReplyId : UInt8 := 0x21
def usbReplyId : UInt8 := 0x81
def rumbleSubcommandId : UInt8 := 0x01
def rumbleOnlyId : UInt8 := 0x10
def usbCommandId : UInt8 := 0x80

def stickCenter : Int := 2048
def stickRange : Int := 1400
def stickMax : Int := 4095

def usbRequestStatus : UInt8 := 0x01
def usbHandshake : UInt8 := 0x02
def usbBaudrate : UInt8 := 0x03
def usbHidOnly : UInt8 := 0x04
def subRequestDeviceInfo : UInt8 := 0x02
def subSetInputMode : UInt8 := 0x03
def subSpiRead : UInt8 := 0x10
def subSetPlayerLights : UInt8 := 0x30
def subGetPlayerLights : UInt8 := 0x31
def subEnableImu : UInt8 := 0x40
def subEnableVibration : UInt8 := 0x48

def mac : List UInt8 := [0x02, 0x56, 0x47, 0x53, 0x57, 0x50]

def amplitudeMax : Nat := 0x64

def amplitudeByIndex : List UInt16 :=
  [0, 514, 775, 921, 1096, 1303, 1550, 1843, 2192, 2606,
    3100, 3686, 4383, 5213, 6199, 7372, 7698, 8039, 8395, 8767,
    9155, 9560, 9984, 10426, 10887, 11369, 11873, 12398, 12947, 13520,
    14119, 14744, 15067, 15397, 15734, 16079, 16431, 16790, 17158, 17534,
    17918, 18310, 18711, 19121, 19540, 19967, 20405, 20851, 21308, 21775,
    22251, 22739, 23236, 23745, 24265, 24797, 25340, 25894, 26462, 27041,
    27633, 28238, 28856, 29488, 30134, 30794, 31468, 32157, 32861, 33581,
    34316, 35068, 35836, 36620, 37422, 38242, 39079, 39935, 40809, 41703,
    42616, 43549, 44503, 45477, 46473, 47491, 48531, 49593, 50679, 51789,
    52923, 54082, 55266, 56476, 57713, 58977, 60268, 61588, 62936, 64315,
    65535]

end SwitchPro

-- `n` bytes of an array that starts with `bytes` and is zero behind them.
def padded (n : Nat) (bytes : List UInt8) : List UInt8 :=
  bytes.take n ++ List.replicate (n - bytes.length) 0

-- The controller state that the input report and the subcommand reply share.
def SwitchInputReport.stateBytes (report : SwitchInputReport) : List UInt8 :=
  [report.timer, report.connectionBattery, report.buttonsRight, report.buttonsShared,
    report.buttonsLeft] ++ report.leftStick ++ report.rightStick ++ [report.vibratorReport]

def SwitchInputReport.bytes (report : SwitchInputReport) : List UInt8 :=
  [SwitchPro.inputReportId] ++ report.stateBytes ++ padded 36 report.imu ++ List.replicate 15 0

def SwitchSubcommandReply.bytes (reply : SwitchSubcommandReply) : List UInt8 :=
  [SwitchPro.subcommandReplyId] ++ reply.input.stateBytes ++ [reply.ack, reply.subcommand] ++
    padded 49 reply.data

namespace SwitchPro

def clampStick (value : Int) : UInt16 :=
  if value < 0 then 0 else UInt16.ofInt (if value > stickMax then stickMax else value)

-- Two 12-bit values in three bytes.
def packStick (horizontal vertical : UInt16) : List UInt8 :=
  [horizontal.toUInt8,
    ((horizontal >>> 8) &&& 0x0F).toUInt8 ||| ((vertical &&& 0x0F).toUInt8 <<< 4),
    (vertical >>> 4).toUInt8]

def toStick (value : Int16) : UInt16 :=
  clampStick (stickCenter + (value.toInt * stickRange).tdiv 32767)

def accelSensitivity : Int := 16384
def gyroSensitivity : Int := 13371

-- The bits of the mask whose button is held, over a table.
def buttonBits (buttons : UInt32) (map : List (UInt32 × UInt8)) : UInt8 :=
  map.foldl (fun bits pair => if hasAny buttons pair.1 then bits ||| pair.2 else bits) 0

def rightMap : List (UInt32 × UInt8) :=
  [(ButtonMask.south, 0x04), (ButtonMask.east, 0x08), (ButtonMask.west, 0x01),
    (ButtonMask.north, 0x02), (ButtonMask.rightShoulder, 0x40)]

def sharedMap : List (UInt32 × UInt8) :=
  [(ButtonMask.back, 0x01), (ButtonMask.start, 0x02), (ButtonMask.leftStick, 0x08),
    (ButtonMask.rightStick, 0x04), (ButtonMask.home, 0x10),
    (ButtonMask.misc ||| ButtonMask.touchpad, 0x20)]

def leftMap : List (UInt32 × UInt8) :=
  [(ButtonMask.dpadDown, 0x01), (ButtonMask.dpadUp, 0x02), (ButtonMask.dpadRight, 0x04),
    (ButtonMask.dpadLeft, 0x08), (ButtonMask.leftShoulder, 0x40)]

def imuSample (state : SwitchState) : List UInt8 :=
  Sc26Usb.leInt16 state.accel.1 ++ Sc26Usb.leInt16 state.accel.2.1 ++
    Sc26Usb.leInt16 state.accel.2.2 ++ Sc26Usb.leInt16 state.gyro.1 ++
    Sc26Usb.leInt16 state.gyro.2.1 ++ Sc26Usb.leInt16 state.gyro.2.2

-- The level in the high nibble, then the charging and the cable bit.
def connectionBattery (state : SwitchState) : UInt8 :=
  let level : UInt8 := (state.batteryLevel &&& 0x0E) <<< 4
  let charging : UInt8 := if state.charging then 0x10 else 0
  let cable : UInt8 := if state.cableConnected then 0x01 else 0
  level ||| charging ||| cable

-- The triggers are digital here, and the newest motion sample is sent three times.
def encodeSwitchInput (input : InputStateRequest) (state : SwitchState) :
    SwitchInputReport × SwitchState :=
  let state := { state with timer := state.timer + 1 }
  ({ timer := state.timer
     connectionBattery := connectionBattery state
     buttonsRight := buttonBits input.buttons rightMap |||
       (if input.rightTrigger > 0 then (0x80 : UInt8) else 0)
     buttonsShared := buttonBits input.buttons sharedMap
     buttonsLeft := buttonBits input.buttons leftMap |||
       (if input.leftTrigger > 0 then (0x80 : UInt8) else 0)
     leftStick := packStick (toStick input.leftX) (toStick input.leftY)
     rightStick := packStick (toStick input.rightX) (toStick input.rightY)
     vibratorReport := 0x0C
     imu := if state.imuEnabled then imuSample state ++ imuSample state ++ imuSample state
       else [] },
    state)

def clampInt32 (value : Int) : Int := max (-2147483648) (min value 2147483647)

-- Device x is -z, device y is -x and device z is y of the protocol's frame.
def applySwitchMotion (motion : MotionStateRequest) (state : SwitchState) : Bool × SwitchState :=
  match MotionKind.ofByte motion.motionType with
  | .accelerometer =>
    let convert (milli : Int) := Sc26Usb.clampI16 (clampInt32 ((milli * 4096).tdiv 9807))
    (true, { state with
      accel := (convert (-motion.zMilli.toInt), convert (-motion.xMilli.toInt),
        convert motion.yMilli.toInt) })
  | .gyroscope =>
    let convert (milli : Int) :=
      Sc26Usb.clampI16 (clampInt32 ((milli * gyroSensitivity).tdiv (936 * 1000)))
    (true, { state with
      gyro := (convert (-motion.zMilli.toInt), convert (-motion.xMilli.toInt),
        convert motion.yMilli.toInt) })
  | .other _ => (false, state)

-- Even levels, the quartiles of the percentage.
def applySwitchBattery (battery : BatteryStateRequest) (state : SwitchState) :
    Bool × SwitchState :=
  let reported := BatteryState.ofByte battery.flags
  (true, { state with
    cableConnected := reported == .charging || reported == .full || reported == .notCharging
    charging := reported == .charging
    batteryLevel := if battery.percent ≤ 100 then
      (if battery.percent = 0 then 0
        else UInt8.ofNat (2 * ((battery.percent.toNat + 24) / 25))) else state.batteryLevel })

-- The reply to a USB command; none when the command is not answered.
def handleSwitchUsbCommand (report : Option (List UInt8)) (state : SwitchState) :
    Option (List UInt8) × SwitchState :=
  match report with
  | some (id :: subtype :: _) =>
    let reply (data : List UInt8) := some ([usbReplyId, subtype] ++ padded 62 data)
    if id ≠ usbCommandId then
      (none, state)
    else if subtype = usbRequestStatus then
      (reply ([0x00, 0x03] ++ mac), state)
    else if subtype = usbHandshake then
      (reply [], { state with handshakeComplete := true })
    else if subtype = usbBaudrate ∨ subtype = usbHidOnly then
      (reply [], state)
    else
      (none, state)
  | _ => (none, state)

-- The two axes of a calibration pair, packed like a stick.
def calibrationPair (value : UInt16) : List UInt8 := packStick value value

-- A block of the flash in a read of `length` bytes, `fill` behind it. A read that
-- is shorter than the block sees erased flash.
def readBlock (block : List UInt8) (fill : UInt8) (length : Nat) : List UInt8 :=
  if length < block.length then List.replicate length 0xFF
  else block ++ List.replicate (length - block.length) fill

def stickCalibration : List UInt8 :=
  calibrationPair 1400 ++ calibrationPair 2048 ++ calibrationPair 1400 ++
    calibrationPair 2048 ++ calibrationPair 1400 ++ calibrationPair 1400

def motionCalibration : List UInt8 :=
  let accel := le16 (UInt16.ofInt accelSensitivity)
  let gyro := le16 (UInt16.ofInt gyroSensitivity)
  List.replicate 6 0 ++ accel ++ accel ++ accel ++ List.replicate 6 0 ++ gyro ++ gyro ++ gyro

def colours : List UInt8 := [0x32, 0x32, 0x32, 0xE6, 0xE6, 0xE6]

-- Behind the motion calibration a long read finds zeros, elsewhere erased flash.
def readSpi (address : UInt32) (length : UInt8) : List UInt8 :=
  if address = 0x603D then readBlock stickCalibration 0xFF length.toNat
  else if address = 0x6020 then readBlock motionCalibration 0 length.toNat
  else if address = 0x6050 then readBlock colours 0xFF length.toNat
  else List.replicate length.toNat 0xFF

def getLe32 (bytes : List UInt8) : UInt32 :=
  (bytes.getD 0 0).toUInt32 ||| ((bytes.getD 1 0).toUInt32 <<< 8) |||
    ((bytes.getD 2 0).toUInt32 <<< 16) ||| ((bytes.getD 3 0).toUInt32 <<< 24)

def subcommandDataBytes : Nat := 49

-- The acknowledgement and data of a subcommand, and what it changes.
def answerSubcommand (subcommand : UInt8) (args : List UInt8) (state : SwitchState) :
    UInt8 × List UInt8 × SwitchState :=
  let first := args.headD 0
  if subcommand = subRequestDeviceInfo then
    (0x82, [0x04, 0x21, 0x03, 0x02] ++ mac ++ [0x01, 0x01], state)
  else if subcommand = subSpiRead then
    if args.length < 5 then
      (0x80, [], state)
    else
      let length := args.getD 4 0
      let length := if length.toNat > subcommandDataBytes - 5 then
        UInt8.ofNat (subcommandDataBytes - 5) else length
      (0x90, args.take 5 ++ readSpi (getLe32 args) length, state)
  else if subcommand = subEnableImu then
    (0x80, [], if args.isEmpty then state else { state with imuEnabled := first != 0 })
  else if subcommand = subEnableVibration then
    (0x80, [], if args.isEmpty then state else { state with vibrationEnabled := first != 0 })
  else if subcommand = subSetPlayerLights then
    (0x80, [], if args.isEmpty then state else { state with playerLights := first })
  else if subcommand = subGetPlayerLights then
    (0xB0, [state.playerLights], state)
  else
    (0x80, [], state)

-- A report is its id, a packet counter, eight rumble bytes, the subcommand and
-- its arguments. The reply carries the whole controller state.
def handleSwitchSubcommand (report : Option (List UInt8)) (lastInput : InputStateRequest)
    (state : SwitchState) : Option SwitchSubcommandReply × SwitchState :=
  match report with
  | none => (none, state)
  | some bytes =>
    if bytes.length < 11 ∨ bytes.getD 0 0 ≠ rumbleSubcommandId then
      (none, state)
    else
      let subcommand := bytes.getD 10 0
      let (input, state) := encodeSwitchInput lastInput state
      let (ack, data, state) := answerSubcommand subcommand (bytes.drop 11) state
      (some { input := input, ack := ack, subcommand := subcommand, data := data }, state)

-- The mode command that asks for full reports is followed by one of them.
def asksForInput (reply : SwitchSubcommandReply) (bytes : List UInt8) : Bool :=
  reply.subcommand == subSetInputMode && decide (12 ≤ bytes.length) &&
    bytes.getD 11 0 == inputReportId

-- Queue the acknowledgement, and behind a set-input-mode one a fresh report.
def queueSwitchSubcommandReply (report : Option (List UInt8)) (lastInput : InputStateRequest)
    (state : SwitchState) (pump : ReportPump) : Bool × SwitchState × ReportPump :=
  match handleSwitchSubcommand report lastInput state with
  | (none, state) => (false, state, pump)
  | (some reply, state) =>
    match pump.enqueue (some reply.bytes) subcommandReplyId .priority with
    | (false, pump) => (false, state, pump)
    | (true, pump) =>
      if asksForInput reply (report.getD []) then
        let (input, state) := encodeSwitchInput lastInput state
        let (queued, pump) := pump.enqueue (some input.bytes) inputReportId .continuous
        (queued, state, pump)
      else
        (true, state, pump)

def scaleAmplitude (index : Int) : UInt16 :=
  if index ≤ 0 then 0 else amplitudeByIndex.getD (min index.toNat amplitudeMax) 0

-- Four bytes a side: the high band in the first two, the low band in the others.
def highBand (side : List UInt8) : UInt16 :=
  scaleAmplitude ((side.getD 1 0 &&& 0xFE) >>> 1).toNat

def lowBand (side : List UInt8) : UInt16 :=
  scaleAmplitude ((((side.getD 3 0 &&& 0x7F).toNat : Int) - 0x40) * 2 +
    ((side.getD 2 0 &&& 0x80) >>> 7).toNat)

-- The louder of the two sides in each band.
def decodeSwitchRumble (report : Option (List UInt8)) : Option PlaystationOutputFeedback :=
  match report with
  | none => none
  | some bytes =>
    if bytes.length < 10 ∨ (bytes.getD 0 0 ≠ rumbleSubcommandId ∧ bytes.getD 0 0 ≠ rumbleOnlyId) then
      none
    else
      let left := bytes.drop 2
      let right := bytes.drop 6
      let louder (a b : UInt16) : UInt16 := if a > b then a else b
      some { PlaystationOutputFeedback.zero with
        highFrequency := louder (highBand left) (highBand right)
        lowFrequency := louder (lowBand left) (lowBand right) }

end SwitchPro

end LibVirtualGamepad
