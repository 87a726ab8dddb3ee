import LibVirtualGamepad.Playstation

namespace LibVirtualGamepad

-- A profile that may be created; its descriptor and identity go to VHF unread.
structure ProfileDefinition where
  id : Profile
  forceFeedback : Bool

-- The profiles that passed validation. None of them declares force feedback.
def findProfile : Profile → Option ProfileDefinition
  | .xboxSeries => some ⟨.xboxSeries, false⟩
  | .xboxOne => some ⟨.xboxOne, false⟩
  | .dualshock4 => some ⟨.dualshock4, false⟩
  | .dualsense => some ⟨.dualsense, false⟩
  | .switchPro => some ⟨.switchPro, false⟩
  | .steamController => some ⟨.steamController, false⟩
  | .genericHid | .genericPid | .xbox360 | .other _ => none

namespace Profile

-- The bit of a profile in a profile mask is its protocol value less one.
def bit : Profile → UInt32
  | .genericHid => 0x001
  | .xbox360 => 0x002
  | .xboxOne => 0x004
  | .xboxSeries => 0x008
  | .dualshock4 => 0x010
  | .dualsense => 0x020
  | .switchPro => 0x040
  | .genericPid => 0x080
  | .steamController => 0x100
  | .other raw => if raw = 0 ∨ 32 < raw.toNat then 0 else 1 <<< (raw.toUInt32 - 1)

def candidates : List Profile :=
  [.genericHid, .genericPid, .xbox360, .xboxOne, .xboxSeries, .dualshock4, .dualsense, .switchPro,
    .steamController]

def isPlaystation (profile : Profile) : Bool := profile == .dualshock4 || profile == .dualsense
def isXbox (profile : Profile) : Bool := profile == .xboxSeries || profile == .xboxOne
def isSteamController (profile : Profile) : Bool := profile == .steamController

end Profile

def availableProfiles : UInt32 :=
  Profile.candidates.foldl
    (fun mask profile => if (findProfile profile).isSome then mask ||| profile.bit else mask) 0

structure GenericInputReport where
  buttons : UInt32
  hatAndPadding : UInt8
  leftX : Int16
  leftY : Int16
  rightX : Int16
  rightY : Int16
  leftTrigger : UInt8
  rightTrigger : UInt8

namespace Generic

def inputReportId : UInt8 := 1
def outputReportId : UInt8 := 2
def outputReportBytes : Nat := 6

-- Button n of the report is the n-th of these.
def sourceButtons : List UInt32 :=
  [ButtonMask.south, ButtonMask.east, ButtonMask.west, ButtonMask.north,
    ButtonMask.leftShoulder, ButtonMask.rightShoulder, ButtonMask.back, ButtonMask.start,
    ButtonMask.leftStick, ButtonMask.rightStick, ButtonMask.home,
    ButtonMask.paddle1, ButtonMask.paddle2, ButtonMask.paddle3, ButtonMask.paddle4,
    ButtonMask.touchpad, ButtonMask.misc]

def mapButtons (buttons : UInt32) : UInt32 :=
  sourceButtons.zipIdx.foldl
    (fun mapped source =>
      if hasAny buttons source.1 then mapped ||| (1 <<< UInt32.ofNat source.2) else mapped) 0

-- The most negative value has no positive counterpart.
def toHidVerticalAxis (value : Int16) : Int16 := if value = -32768 then 32767 else -value

def encodeGenericInput (input : InputStateRequest) : GenericInputReport where
  buttons := mapButtons input.buttons
  hatAndPadding := Playstation.encodeHat input.buttons
  leftX := input.leftX
  leftY := toHidVerticalAxis input.leftY
  rightX := input.rightX
  rightY := toHidVerticalAxis input.rightY
  leftTrigger := input.leftTrigger
  rightTrigger := input.rightTrigger

-- A six-byte rumble and colour report.
def encodeGenericFeedback (controllerId : UInt32) (output : List UInt8) : FeedbackEvent :=
  .make controllerId .genericRumbleRgb
    (GenericRumbleRgbFeedback.bytes
      { lowFrequency := (output.getD 1 0).toUInt16 <<< 8
        highFrequency := (output.getD 2 0).toUInt16 <<< 8
        red := output.getD 3 0
        green := output.getD 4 0
        blue := output.getD 5 0 })

end Generic

def GenericInputReport.bytes (report : GenericInputReport) : List UInt8 :=
  [Generic.inputReportId] ++ le32 report.buttons ++ [report.hatAndPadding] ++
    Sc26Usb.leInt16 report.leftX ++ Sc26Usb.leInt16 report.leftY ++
    Sc26Usb.leInt16 report.rightX ++ Sc26Usb.leInt16 report.rightY ++
    [report.leftTrigger, report.rightTrigger]

end LibVirtualGamepad
