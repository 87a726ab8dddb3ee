import LibVirtualGamepad.Sc26Usb.Feature

namespace LibVirtualGamepad

structure Sc26State where
  device : Sc26Usb.State
  features : Sc26Usb.FeatureState
  lastMotionUs : UInt64
  lastBatteryUs : UInt64
  lastReportUs : UInt64
  gripExplicit : Bool
  stickTouchExplicit : Bool
  triggerClickExplicit : Bool

namespace Sc26State

open Sc26Usb

def initial : Sc26State where
  device := .initial
  features := .initial
  lastMotionUs := 0
  lastBatteryUs := 0
  lastReportUs := 0
  gripExplicit := false
  stickTouchExplicit := false
  triggerClickExplicit := false

end Sc26State

namespace SteamController

open Sc26Usb

def buttonMap : List (UInt32 × UInt32) :=
  [(ButtonMask.south, Button.a),
    (ButtonMask.east, Button.b),
    (ButtonMask.west, Button.x),
    (ButtonMask.north, Button.y),
    (ButtonMask.dpadUp, Button.dpadUp),
    (ButtonMask.dpadDown, Button.dpadDown),
    (ButtonMask.dpadLeft, Button.dpadLeft),
    (ButtonMask.dpadRight, Button.dpadRight),
    -- The device names these two the other way round.
    (ButtonMask.start, Button.view),
    (ButtonMask.back, Button.menu),
    (ButtonMask.leftStick, Button.l3),
    (ButtonMask.rightStick, Button.r3),
    (ButtonMask.leftShoulder, Button.l),
    (ButtonMask.rightShoulder, Button.r),
    (ButtonMask.home, Button.steam),
    (ButtonMask.misc, Button.qam),
    (ButtonMask.paddle1, Button.r4),
    (ButtonMask.paddle2, Button.l4),
    (ButtonMask.paddle3, Button.r5),
    (ButtonMask.paddle4, Button.l5)]

def sc26Buttons (buttons : UInt32) (state : Sc26State) : UInt32 :=
  let out := buttonMap.foldl (fun out pair => addBit out pair.2 (hasAny buttons pair.1)) 0
  if hasAny buttons ButtonMask.sc26ButtonsExplicit then
    let out := addBit out Button.leftPadClick (hasAny buttons ButtonMask.leftPadClick)
    let out := addBit out Button.rightPadClick (hasAny buttons ButtonMask.rightPadClick)
    let out := addBit out Button.leftTriggerClick (hasAny buttons ButtonMask.leftTriggerClick)
    addBit out Button.rightTriggerClick (hasAny buttons ButtonMask.rightTriggerClick)
  else if hasAny buttons ButtonMask.touchpad then
    -- One click flag for two pads: it lands on the pads under a finger, and on
    -- the right one when no pad is touched.
    let left := state.device.leftPadTouched
    let right := state.device.rightPadTouched
    addBit (addBit out Button.leftPadClick left) Button.rightPadClick (right || !left)
  else
    out

-- The grips and the sticks that a request has a finger on.
def gripsHeld (buttons : UInt32) : Vector Bool 2 :=
  #v[hasAny buttons ButtonMask.leftGripTouch, hasAny buttons ButtonMask.rightGripTouch]

def sticksTouched (buttons : UInt32) : Vector Bool 2 :=
  #v[hasAny buttons ButtonMask.leftStickTouch, hasAny buttons ButtonMask.rightStickTouch]

def applyClientStickTouch (buttons : UInt32) (state : Sc26State) : Sc26State :=
  let state :=
    if hasAny buttons (ButtonMask.leftStickTouch ||| ButtonMask.rightStickTouch) then
      { state with
        stickTouchExplicit := true
        device := { state.device with stickTouchFromDeflection := false } }
    else
      state
  if state.stickTouchExplicit then
    { state with
      device := { state.device with
        stickTouch := #v[hasAny buttons ButtonMask.leftStickTouch,
          hasAny buttons ButtonMask.rightStickTouch] } }
  else
    state

-- What an input request does to the state before its report is encoded: the
-- latches of explicit clicks, grips and stick touch, and the touch bits they rule.
def latchClientInput (buttons : UInt32) (state : Sc26State) : Sc26State :=
  let state :=
    if hasAny buttons ButtonMask.sc26ButtonsExplicit then
      { state with
        triggerClickExplicit := true
        gripExplicit := true
        stickTouchExplicit := true
        device := { state.device with stickTouchFromDeflection := false } }
    else
      state
  let state := { state with
    device := { state.device with triggerClickFromAnalog := !state.triggerClickExplicit } }
  let state :=
    if hasAny buttons (ButtonMask.leftGripTouch ||| ButtonMask.rightGripTouch) then
      { state with gripExplicit := true }
    else
      state
  let state :=
    if state.gripExplicit then
      { state with
        device := { state.device with
          gripTouch := #v[hasAny buttons ButtonMask.leftGripTouch,
            hasAny buttons ButtonMask.rightGripTouch] } }
    else
      state
  applyClientStickTouch buttons state

def encodeSc26Input (input : InputStateRequest) (state : Sc26State) : InputReport × Sc26State :=
  let state := latchClientInput input.buttons state
  let (report, device) := encodeInput (sc26Buttons input.buttons state) input.leftX input.leftY
    input.rightX input.rightY input.leftTrigger input.rightTrigger state.device
  (report, { state with device := device })

def encodeSc26Battery (state : Sc26State) : BatteryReport := encodeBattery state.device

-- The pads have no hover state: a hover or a move only updates a contact that is
-- already down.
def applySc26Touch (touch : TouchStateRequest) (state : Sc26State) : Bool × Sc26State :=
  let st := state.device
  let pad := touch.contactIndex.toNat
  let press : Sc26State :=
    { state with
      device := { st with
        padTouched := st.padTouched.setIfInBounds pad true
        padX := st.padX.setIfInBounds pad touch.x
        padY := st.padY.setIfInBounds pad touch.y
        padPressure := st.padPressure.setIfInBounds pad touch.pressure } }
  let lift : Sc26State :=
    { state with
      device := { st with
        padTouched := st.padTouched.setIfInBounds pad false
        padPressure := st.padPressure.setIfInBounds pad 0 } }
  match TouchEvent.ofByte touch.eventType with
  | .cancelAll =>
    (true, { state with device := { st with padTouched := Vector.replicate 2 false } })
  | event =>
    if touch.contactIndex ≥ 2 then
      (false, state)
    else
      match event with
      | .hover | .move =>
        if st.padTouched.toList.getD pad false then (true, press) else (false, state)
      | .down => (true, press)
      | .up | .cancel => (true, lift)
      | _ => (false, state)

-- Stamp the report clock; grips read released until a client reports them.
def sc26Tick (nowUs : UInt64) (state : Sc26State) : Sc26State :=
  { state with
    device := { state.device with
      imuTimestamp := nowUs.toUInt32
      gripTouch := if state.gripExplicit then state.device.gripTouch
        else Vector.replicate 2 false } }

def applySc26Motion (motion : MotionStateRequest) (nowUs : UInt64) (state : Sc26State) :
    Bool × Sc26State :=
  let sampled (device : State) : Sc26State :=
    { state with device := device, lastMotionUs := if nowUs ≠ 0 then nowUs else 1 }
  match MotionKind.ofByte motion.motionType with
  | .accelerometer =>
    (true, sampled (applyAccelMilli state.device motion.xMilli motion.yMilli motion.zMilli))
  | .gyroscope =>
    (true, sampled (applyGyroMilli state.device motion.xMilli motion.yMilli motion.zMilli))
  | .other _ => (false, state)

def applySc26Attributes (attributes : SteamControllerAttributesRequest) (state : Sc26State) :
    UInt32 × Sc26State :=
  let (features, applied) := applyAttributes attributes state.features
  (applied, { state with features := features })

def applySc26Battery (battery : BatteryStateRequest) (state : Sc26State) : Sc26State :=
  let st := state.device
  let percent := if battery.percent ≤ 100 then battery.percent else st.batteryPercent
  let device : State :=
    match BatteryState.ofByte battery.flags with
    | .charging => { st with batteryPercent := percent, chargeState := chargeCharging }
    | .full => { st with batteryPercent := 100, chargeState := chargeDone }
    | _ => { st with batteryPercent := percent, chargeState := chargeDischarging }
  { state with device := device }

-- The feedback event for a haptic output report; none when the report is not one
-- or is cut short.
def applySc26Output (data : Option (List UInt8)) (controllerId : UInt32) : Option FeedbackEvent :=
  match data with
  | none => none
  | some bytes =>
    let id := bytes.getD 0 0
    let length := reportSize id
    if bytes.length < 2 ∨ !isOutputReport id ∨ id > hapticScriptId then
      none
    else if bytes.length < length ∨ steamHapticReportBytes < length then
      none
    else
      let payload : SteamHapticFeedback :=
        { length := UInt8.ofNat length
          report := Vector.ofFn fun i => (bytes.take length).getD i 0 }
      some (.make controllerId .steamHaptic payload.bytes)

-- The chunk that carries the triples from `first` on.
def settingsChunk (command : UInt8) (payload : List UInt8) (triples first : Nat) :
    SteamSettingsFeedback :=
  let count := if triples - first < steamSettingsTriplesMax then triples - first
    else steamSettingsTriplesMax
  { command := command
    count := UInt8.ofNat count
    triples := Vector.ofFn fun i => ((payload.drop (first * 3)).take (count * 3)).getD i 0 }

-- The feedback events for a settings write or a reload of the defaults. A second
-- reading of the transfer, beside the responder's own.
def applySc26Settings (data : Option (List UInt8)) (controllerId : UInt32) (capacity : Nat) :
    List FeedbackEvent :=
  match data with
  | some (id :: command :: length :: payload) =>
    if id ≠ featuresReportId then
      []
    else if length.toNat > payload.length then
      []
    else
      let triples := if command = Command.setSettingsValues then length.toNat / 3 else 0
      if command = Command.setSettingsValues ∧ triples = 0 then
        []
      else if command ≠ Command.setSettingsValues ∧ command ≠ Command.loadDefaultSettings then
        []
      else
        let needed := if command = Command.loadDefaultSettings then 1
          else (triples + steamSettingsTriplesMax - 1) / steamSettingsTriplesMax
        if needed > capacity then
          []
        else
          (List.range needed).map fun n =>
            .make controllerId .steamSettings
              (settingsChunk command payload triples (n * steamSettingsTriplesMax)).bytes
  | _ => []

def setSc26Feature (reportId : UInt8) (buffer : Option (List UInt8)) (state : Sc26State) :
    Bool × Sc26State :=
  if reportId ≠ featuresReportId then
    (false, state)
  else
    let (accepted, features) := setFeature buffer state.features
    (accepted, { state with features := features })

def fillSc26Feature (reportId : UInt8) (capacity : Nat) (state : Sc26State) :
    Option (List UInt8) :=
  if reportId ≠ featuresReportId then none else getFeature capacity state.features

end SteamController

end LibVirtualGamepad
