import LibVirtualGamepad.Driver.Slot

-- The critical sections that touch one slot's data. Each runs under the state lock
-- and reads the device's flags and the slot's lifecycle without changing them.
namespace LibVirtualGamepad

structure DeviceFlags where
  stopping : Bool
  powered : Bool
  keepaliveTimer : Bool
  timerRunning : Bool
  timerParked : Bool
  deriving DecidableEq

structure Section where
  flags : DeviceFlags
  control : SlotControl
  controllerId : UInt32
  now : UInt64

namespace Section

-- VHF may call into a slot from the moment its handle is published.
def acceptsVhfCallbacks (s : Section) : Bool :=
  !s.flags.stopping && s.flags.powered && s.control.vhf.isSome &&
    (s.control.state == .starting || s.control.state == .active)

-- What the owner's submissions and the keep-alive ask for.
def isActive (s : Section) : Bool :=
  !s.flags.stopping && s.control.state == .active && s.control.vhf.isSome

def inactiveControllerStatus (s : Section) (owner : File) : NtStatus :=
  if s.control.isOwnedBy owner && s.control.state == .lost then .deviceRemoved
  else .deviceNotReady

end Section

inductive StateUpdate where
  | touch (request : TouchStateRequest)
  | motion (request : MotionStateRequest)
  | battery (request : BatteryStateRequest)

-- The packet of a VHF operation, none for a null buffer.
structure Transfer where
  reportId : UInt8
  buffer : Option (List UInt8)

def Transfer.length (transfer : Transfer) : Nat := (transfer.buffer.map List.length).getD 0

structure FeedbackCounters where
  hapticEvicted : UInt8
  settingsEvicted : UInt8
  transitionsDropped : UInt8
  unknownCommands : UInt8
  deriving DecidableEq

structure QueryInfo where
  minimumProtocolVersion : UInt16
  maximumProtocolVersion : UInt16
  availableProfiles : UInt32
  availableFeatures : UInt32
  maximumControllers : UInt32
  counters : FeedbackCounters

-- The device-wide half of the answer.
def fillQueryInfo : QueryInfo where
  minimumProtocolVersion := protocolVersion
  maximumProtocolVersion := protocolVersion
  availableProfiles := availableProfiles
  availableFeatures := 0x3F
  maximumControllers := UInt32.ofNat maxControllers
  counters := ⟨0, 0, 0, 0⟩

-- What a request or operation hands back beside its status.
inductive Output where
  | none
  | bytes (bytes : List UInt8)
  | event (event : FeedbackEvent)
  | info (info : QueryInfo)
  | keyboardMouseInfo (capabilities queueCapacity absoluteTargetGeneration : UInt32)
  -- What became of a keyboard or mouse event: taken, or to be sent again.
  | acceptance (busy : Bool)

inductive SlotStep where
  | input (owner : File) (request : InputStateRequest)
  | beginUpdate (owner : File) (update : StateUpdate)
  | applyUpdate (update : StateUpdate)
  | carryMotion
  | profileReport (kind : ReportKind)
  -- `answers` tells whether the caller returns what became of the report.
  | pumpReport (report : Option QueuedReport) (answers : Bool)
  | ready
  | write (transfer : Transfer)
  | getFeature (transfer : Transfer)
  | setFeature (transfer : Transfer)
  | getInputReport (transfer : Transfer)
  | query (owner : File)
  | attributes (owner : File) (request : SteamControllerAttributesRequest)
  | poll (owner : File)
  | keepalive

-- `status` and `output` are none where the section answers nothing. A section that
-- took a report leaves with `submit`; `rearm` and `startKeepalive` are what it asks
-- of the keep-alive; `next` are the sections its function goes on with.
structure StepResult where
  data : SlotData
  status : Option NtStatus := none
  output : Option Output := none
  submit : Bool := false
  rearm : Bool := false
  startKeepalive : Bool := false
  next : List SlotStep := []

namespace Section

-- The queueing half of pump_report: none when the slot does not accept callbacks.
-- Otherwise the next report is taken if VHF can have one; the answer tells whether
-- it is a Steam Controller state report.
def pumpReportLocked (s : Section) (report : Option QueuedReport) (data : SlotData) :
    Option (Option Bool × SlotData) :=
  if s.acceptsVhfCallbacks then
    let data := match report with
      | some report => (data.enqueue report).2
      | none => data
    some (data.takeReport s.now)
  else
    none

-- The section of pump_report and of the callers that queue in their own section.
def pumpReport (s : Section) (report : Option QueuedReport) (answers : Bool) (data : SlotData) :
    StepResult :=
  match s.pumpReportLocked report data with
  | none => { data := data, status := if answers then some .deviceNotReady else none }
  | some (taken, data) =>
    { data := data
      status := if answers then some .success else none
      submit := taken.isSome
      rearm := taken == some true }

def ready (s : Section) (data : SlotData) : StepResult :=
  if s.acceptsVhfCallbacks then
    let (taken, data) := data.setReady.takeReport s.now
    { data := data
      submit := taken.isSome
      -- A parked cadence resumes with the reader.
      rearm := taken == some true ||
        (s.flags.timerParked && data.haveLastInput && data.selectedProfile.isSteamController) }
  else
    { data := data }

-- The worker starts with the first input of a Steam Controller.
def wantsKeepalive (s : Section) : Bool := s.flags.keepaliveTimer && !s.flags.timerRunning

def input (s : Section) (owner : File) (request : InputStateRequest) (data : SlotData) :
    StepResult :=
  if s.control.state == .empty || !s.control.isOwnedBy owner || !s.isActive then
    { data := data, status := some (s.inactiveControllerStatus owner) }
  else if data.selectedProfile.isPlaystation then
    let (kind, data) := (data.keepInput request).classify request.buttons request.leftTrigger
      request.rightTrigger
    let (report, data) := data.encodePlaystation request s.now
    { data := data, next := [.pumpReport (some (report.queued kind)) true] }
  else if data.selectedProfile.isSteamController then
    -- Encoded, classified on the encoded word and queued in one section.
    let (report, data) := (data.keepInput request).encodeSteam request s.now
    let word := match report.tag.word with
      | .steam buttons => buttons
      | .pad buttons .. => buttons
    let (kind, data) := data.classify word request.leftTrigger request.rightTrigger
    { s.pumpReport (some (report.queued kind)) true data with startKeepalive := s.wantsKeepalive }
  else if data.selectedProfile = .switchPro then
    let (report, data) := (data.keepInput request).encodeSwitch request
    let (kind, data) := data.classify request.buttons request.leftTrigger request.rightTrigger
    { data := data, next := [.pumpReport (some (report.queued kind)) true] }
  else if data.selectedProfile.isXbox then
    let data := data.keepInput request
    let report := data.encodeXbox request
    let (kind, data) := data.classify request.buttons request.leftTrigger request.rightTrigger
    { data := data, next := [.pumpReport (some (report.queued kind)) true] }
  else if data.selectedProfile = .genericHid ∨ data.selectedProfile = .genericPid then
    let data := data.keepInput request
    let report := data.encodeGeneric request
    let (kind, data) := data.classify request.buttons request.leftTrigger request.rightTrigger
    { data := data, next := [.pumpReport (some (report.queued kind)) true] }
  else
    { data := data, status := some .notSupported }

-- Rebuild the report from the last input. Nothing is sent before the first input.
def profileReport (s : Section) (kind : ReportKind) (data : SlotData) : StepResult :=
  if !s.isActive then
    { data := data, status := some .deviceNotReady }
  else if !data.haveLastInput then
    { data := data, status := some .success }
  else if data.selectedProfile.isSteamController then
    let (report, data) := data.encodeSteam data.lastInput s.now
    s.pumpReport (some (report.queued kind)) true data
  else if data.selectedProfile = .switchPro then
    let (report, data) := data.encodeSwitch data.lastInput
    { data := data, next := [.pumpReport (some (report.queued kind)) true] }
  else
    let (report, data) := data.encodePlaystation data.lastInput s.now
    { data := data, next := [.pumpReport (some (report.queued kind)) true] }

def hasSensors (profile : Profile) : Bool :=
  profile.isPlaystation || profile == .switchPro || profile.isSteamController

def beginUpdate (s : Section) (owner : File) (update : StateUpdate) (data : SlotData) :
    StepResult :=
  if s.control.state == .empty then
    { data := data, status := some .notFound }
  else if !s.control.isOwnedBy owner then
    { data := data, status := some .accessDenied }
  else if !s.isActive then
    { data := data, status := some (s.inactiveControllerStatus owner) }
  else if !hasSensors data.selectedProfile then
    { data := data, status := some .notSupported }
  else
    { data := data, next := [.applyUpdate update] }

-- Moves and hovers may be superseded, the other touch events may not.
def touchKind (event : TouchEvent) : ReportKind :=
  if event = .move ∨ event = .hover then .continuous else .transition

def applyTouch (request : TouchStateRequest) (data : SlotData) : StepResult :=
  if data.selectedProfile = .switchPro then
    { data := data, status := some .notSupported }
  else
    let (applied, data) :=
      if data.selectedProfile = .dualshock4 then
        let (applied, ds4) := DualShock4.applyDs4Touch request data.ds4
        (applied, { data with ds4 := ds4 })
      else if data.selectedProfile = .dualsense then
        let (applied, ds5) := DualSense.applyDs5Touch request data.ds5
        (applied, { data with ds5 := ds5 })
      else if data.selectedProfile.isSteamController then
        let (applied, sc26) := SteamController.applySc26Touch request data.sc26
        (applied, { data with sc26 := sc26 })
      else
        (false, data)
    if applied then
      { data := data, next := [.profileReport (touchKind (TouchEvent.ofByte request.eventType))] }
    else
      { data := data, status := some .invalidParameter }

-- A Steam Controller's sample waits for the keep-alive when there is a worker.
def applyMotion (s : Section) (request : MotionStateRequest) (data : SlotData) : StepResult :=
  let (applied, data) :=
    if data.selectedProfile = .dualshock4 then
      let (applied, ds4) := DualShock4.applyDs4Motion request data.ds4
      (applied, { data with ds4 := ds4 })
    else if data.selectedProfile = .dualsense then
      let (applied, ds5) := DualSense.applyDs5Motion request data.ds5
      (applied, { data with ds5 := ds5 })
    else if data.selectedProfile.isSteamController then
      let (applied, sc26) := SteamController.applySc26Motion request s.now data.sc26
      (applied, { data with sc26 := sc26 })
    else
      let (applied, switchPro) := SwitchPro.applySwitchMotion request data.switchPro
      (applied, { data with switchPro := switchPro })
  if !applied then
    { data := data, status := some .invalidParameter }
  else if data.selectedProfile.isSteamController then
    { data := data, next := [.carryMotion] }
  else
    { data := data, next := [.profileReport .continuous] }

def batteryReport (data : SlotData) : QueuedReport where
  bytes := (SteamController.encodeSc26Battery data.sc26).bytes
  reportId := Sc26Usb.batteryReportId
  kind := .aside
  tag := none

-- A Steam Controller has a battery report of its own, sent only to a reader.
def applyBattery (s : Section) (request : BatteryStateRequest) (data : SlotData) : StepResult :=
  if data.selectedProfile = .dualshock4 then
    let (_, ds4) := DualShock4.applyDs4Battery request data.ds4
    { data := { data with ds4 := ds4 }, next := [.profileReport .continuous] }
  else if data.selectedProfile = .dualsense then
    let (_, ds5) := DualSense.applyDs5Battery request data.ds5
    { data := { data with ds5 := ds5 }, next := [.profileReport .continuous] }
  else if data.selectedProfile.isSteamController then
    let sc26 := SteamController.applySc26Battery request data.sc26
    let reader := data.pump.ready
    let data := { data with
      sc26 := { sc26 with lastBatteryUs := if reader then s.now else 0 } }
    if reader then
      { data := data, next := [.pumpReport (some (batteryReport data)) true] }
    else
      { data := data, status := some .success }
  else
    let (_, switchPro) := SwitchPro.applySwitchBattery request data.switchPro
    { data := { data with switchPro := switchPro }, next := [.profileReport .continuous] }

def applyUpdate (s : Section) (update : StateUpdate) (data : SlotData) : StepResult :=
  match update with
  | .touch request => applyTouch request data
  | .motion request => s.applyMotion request data
  | .battery request => s.applyBattery request data

-- Read without the state lock: is there a worker to carry the sample?
def carryMotion (s : Section) (data : SlotData) : StepResult :=
  if s.flags.keepaliveTimer && s.flags.timerRunning then
    { data := data, status := some .success }
  else
    { data := data, next := [.profileReport .continuous] }

-- The answer of a Steam Controller to a stop pulse.
def ackReport (ack : List UInt8) : QueuedReport where
  bytes := ack
  reportId := Sc26Usb.hapticAckReportId
  kind := .aside
  tag := none

def writeSteam (s : Section) (transfer : Transfer) (data : SlotData) : StepResult :=
  let bytes := transfer.buffer.getD []
  match SteamController.applySc26Output transfer.buffer s.controllerId with
  | some event =>
    let data := { data with
      feedback := { data.feedback with
        haptics := (data.feedback.haptics.enqueueHaptic event).2 } }
    { data := data
      status := some .success
      next := match Sc26Usb.encodeHapticAck bytes with
        | some ack => [.pumpReport (some (ackReport ack)) false]
        | none => [] }
  | none =>
    -- The reports that are declared but never forwarded are not refused.
    if bytes.headD 0 > Sc26Usb.hapticScriptId ∧ Sc26Usb.isOutputReport (bytes.headD 0) then
      { data := data, status := some .success }
    else
      { data := data, status := some .invalidParameter }

-- The fresh report that follows a mode acknowledgement is queued with it, so it is
-- part of the history like any other state report.
def queueSwitchReply (transfer : Transfer) (data : SlotData) : Bool × SlotData :=
  let (queued, switchPro, pump) :=
    SwitchPro.queueSwitchSubcommandReply transfer.buffer data.lastInput data.switchPro data.pump
  let (reply, after) :=
    SwitchPro.handleSwitchSubcommand transfer.buffer data.lastInput data.switchPro
  let events : List PumpEvent := match reply with
    | none => []
    | some reply =>
      ⟨.enqueue (some reply.bytes) SwitchPro.subcommandReplyId .priority, none⟩ ::
        (if queued && SwitchPro.asksForInput reply (transfer.buffer.getD []) then
          let (report, _) := { data with switchPro := after }.encodeSwitch data.lastInput
          [⟨.enqueue (some report.bytes) report.reportId .continuous, some report.tag⟩]
        else [])
  (queued, { data with
    switchPro := switchPro
    pump := pump
    history := { data.history with events := data.history.events ++ events } })

-- Rumble rides along with the subcommands; a queued reply is pumped afterwards.
def writeSwitch (s : Section) (transfer : Transfer) (data : SlotData) : StepResult :=
  let data := match SwitchPro.decodeSwitchRumble transfer.buffer with
    | some rumble =>
      data.setFeedback (Playstation.encodePlaystationFeedback s.controllerId rumble)
    | none => data
  let (queued, data) :=
    if transfer.reportId = SwitchPro.usbCommandId then
      let (reply, switchPro) := SwitchPro.handleSwitchUsbCommand transfer.buffer data.switchPro
      let data := { data with switchPro := switchPro }
      match reply with
      | some reply => data.enqueue ⟨reply, SwitchPro.usbReplyId, .priority, none⟩
      | none => (false, data)
    else if transfer.reportId = SwitchPro.rumbleSubcommandId then
      queueSwitchReply transfer data
    else
      (false, data)
  { data := data
    status := some .success
    next := if queued then [.pumpReport none false] else [] }

def decodePlaystationOutput (transfer : Transfer) (data : SlotData) :
    Bool × PlaystationOutputFeedback :=
  let bytes := transfer.buffer.getD []
  if data.selectedProfile = .dualshock4 then
    if bytes.length < DualShock4.outputReportBytes then
      (false, data.playstationFeedback)
    else
      DualShock4.applyDs4Output (.ofBytes bytes) data.playstationFeedback
  else if bytes.headD 0 = DualSense.outputReportId ∧
      DualSense.outputReportBytes ≤ bytes.length then
    DualSense.applyDs5Output (.ofBytes bytes) data.playstationFeedback
  else if bytes.headD 0 = DualSense.outputReportIdBt ∧
      3 + DualSense.outputReportBytes - 1 ≤ bytes.length then
    -- The Bluetooth form: the payload stands behind id, sequence and tag.
    DualSense.applyDs5Output (.ofBytes (DualSense.outputReportId :: bytes.drop 3))
      data.playstationFeedback
  else
    (false, data.playstationFeedback)

def writePlaystation (s : Section) (transfer : Transfer) (data : SlotData) : StepResult :=
  match decodePlaystationOutput transfer data with
  | (false, _) => { data := data, status := some .invalidParameter }
  | (true, feedback) =>
    { data := { data with playstationFeedback := feedback }.setFeedback
        (Playstation.encodePlaystationFeedback s.controllerId feedback)
      status := some .success }

def writeXbox (s : Section) (transfer : Transfer) (data : SlotData) : StepResult :=
  let bytes := transfer.buffer.getD []
  if transfer.reportId ≠ Xbox.outputReportId ∨ bytes.length < Xbox.outputReportBytes then
    { data := data, status := some .invalidDeviceRequest }
  else
    match Xbox.decodeXboxSeriesOutput (.ofBytes bytes) with
    | none => { data := data, status := some .invalidParameter }
    | some rumble =>
      { data := data.setFeedback (Xbox.encodeXboxSeriesFeedback s.controllerId rumble)
        status := some .success }

def writeGeneric (s : Section) (transfer : Transfer) (data : SlotData) : StepResult :=
  let bytes := transfer.buffer.getD []
  if transfer.reportId ≠ Generic.outputReportId ∨ bytes.length < Generic.outputReportBytes then
    { data := data, status := some .invalidDeviceRequest }
  else if bytes.headD 0 ≠ Generic.outputReportId then
    { data := data, status := some .invalidParameter }
  else if s.acceptsVhfCallbacks &&
      (data.selectedProfile == .genericHid || data.selectedProfile == .genericPid) then
    { data := data.setFeedback (Generic.encodeGenericFeedback s.controllerId bytes)
      status := some .success }
  else
    { data := data, status := some .deviceNotReady }

def write (s : Section) (transfer : Transfer) (data : SlotData) : StepResult :=
  let profile := data.selectedProfile
  if !(profile.isSteamController || profile == .switchPro || profile.isPlaystation ||
      profile.isXbox) then
    s.writeGeneric transfer data
  else if !s.acceptsVhfCallbacks then
    { data := data, status := some .deviceNotReady }
  else if profile.isSteamController then
    s.writeSteam transfer data
  else if profile == .switchPro then
    s.writeSwitch transfer data
  else if profile.isPlaystation then
    s.writePlaystation transfer data
  else
    s.writeXbox transfer data

def getFeature (s : Section) (transfer : Transfer) (data : SlotData) : StepResult :=
  let profile := data.selectedProfile
  let answer (report : Option (List UInt8)) (refusal : NtStatus) : StepResult :=
    match report with
    | some bytes => { data := data, status := some .success, output := some (.bytes bytes) }
    | none => { data := data, status := some refusal }
  if transfer.buffer.isNone || !(profile.isSteamController || profile.isPlaystation) then
    { data := data, status := some .invalidDeviceRequest }
  else if !s.acceptsVhfCallbacks then
    { data := data, status := some .deviceNotReady }
  else if profile.isSteamController then
    answer (SteamController.fillSc26Feature transfer.reportId transfer.length data.sc26)
      (if transfer.reportId = Sc26Usb.featuresReportId then .bufferTooSmall
        else .invalidDeviceRequest)
  else if profile = .dualshock4 then
    answer (DualShock4.fillDs4Feature transfer.reportId transfer.length data.ds4.features)
      .invalidDeviceRequest
  else
    answer (DualSense.fillDs5Feature transfer.reportId transfer.length data.ds5.features)
      .invalidDeviceRequest

def setFeature (s : Section) (transfer : Transfer) (data : SlotData) : StepResult :=
  let profile := data.selectedProfile
  if !(profile.isSteamController || profile.isPlaystation) then
    { data := data, status := some .invalidDeviceRequest }
  else if !s.acceptsVhfCallbacks then
    { data := data, status := some .deviceNotReady }
  else if profile.isSteamController then
    let (accepted, sc26, feedback) :=
      steamSetFeature transfer.reportId transfer.buffer s.controllerId data.sc26 data.feedback
    { data := { data with sc26 := sc26, feedback := feedback }
      status := some (if accepted then .success else .invalidParameter) }
  else if profile = .dualshock4 then
    let (accepted, features) :=
      DualShock4.setDs4Feature transfer.reportId transfer.buffer data.ds4.features
    { data := { data with ds4 := { data.ds4 with features := features } }
      status := some (if accepted then .success else .invalidDeviceRequest) }
  else
    let (accepted, features) :=
      DualSense.setDs5Feature transfer.reportId transfer.buffer data.ds5.features
    { data := { data with ds5 := { data.ds5 with features := features } }
      status := some (if accepted then .success else .invalidDeviceRequest) }

-- The report a host reads on demand. A Steam Controller's carries the number that
-- the next report on the stream will carry.
def currentReport (s : Section) (transfer : Transfer) (data : SlotData) :
    List UInt8 × UInt8 × SlotData :=
  let input := data.lastInput
  match data.selectedProfile with
  | .dualshock4 | .dualsense =>
    let (report, data) := data.encodePlaystation input s.now
    (report.bytes, report.reportId, data)
  | .switchPro =>
    let (report, data) := data.encodeSwitch input
    (report.bytes, report.reportId, data)
  | .xboxSeries | .xboxOne => ((data.encodeXbox input).bytes, (data.encodeXbox input).reportId, data)
  | .steamController =>
    if transfer.reportId = Sc26Usb.batteryReportId then
      ((SteamController.encodeSc26Battery data.sc26).bytes, Sc26Usb.batteryReportId, data)
    else
      let (report, data) := data.encodeSteam input s.now
      (report.bytes.set 1 data.sc26WireSequence, report.reportId, data)
  | _ => ((data.encodeGeneric input).bytes, (data.encodeGeneric input).reportId, data)

def getInputReport (s : Section) (transfer : Transfer) (data : SlotData) : StepResult :=
  match transfer.buffer with
  | none => { data := data, status := some .invalidDeviceRequest }
  | some buffer =>
    if !s.acceptsVhfCallbacks then
      { data := data, status := some .deviceNotReady }
    else
      let (report, reportId, data) := s.currentReport transfer data
      if transfer.reportId ≠ 0 ∧ transfer.reportId ≠ reportId then
        { data := data, status := some .invalidDeviceRequest }
      else if buffer.length < report.length then
        { data := data, status := some .bufferTooSmall }
      else
        { data := data
          status := some .success
          output := some (.bytes (report ++ buffer.drop report.length)) }

def saturateCounter (value : UInt32) : UInt8 := if value > 0xFF then 0xFF else value.toUInt8

def feedbackCountersOf (data : SlotData) : FeedbackCounters where
  hapticEvicted := saturateCounter data.feedback.haptics.evicted
  settingsEvicted := saturateCounter data.feedback.settings.evicted
  transitionsDropped := saturateCounter data.pump.dropped
  unknownCommands := saturateCounter data.sc26.features.unknownCommands

def query (s : Section) (owner : File) (data : SlotData) : StepResult :=
  if s.control.state == .empty then
    { data := data, status := some .notFound }
  else if !s.control.isOwnedBy owner then
    { data := data, status := some .accessDenied }
  else
    { data := data
      status := some .success
      output := some (.info { fillQueryInfo with counters := feedbackCountersOf data }) }

def attributes (s : Section) (owner : File) (request : SteamControllerAttributesRequest)
    (data : SlotData) : StepResult :=
  if s.control.state == .empty then
    { data := data, status := some .notFound }
  else if !s.control.isOwnedBy owner then
    { data := data, status := some .accessDenied }
  else if !data.selectedProfile.isSteamController then
    { data := data, status := some .notSupported }
  else
    { data := { data with sc26 := (SteamController.applySc26Attributes request data.sc26).2 }
      status := some .success }

def poll (s : Section) (owner : File) (data : SlotData) : StepResult :=
  if s.control.state == .empty then
    { data := data, status := some .notFound }
  else if !s.control.isOwnedBy owner then
    { data := data, status := some .accessDenied }
  else if s.control.state != .active then
    { data := data, status := some (s.inactiveControllerStatus owner) }
  else
    match data.feedback.poll with
    | none => { data := data, status := some .noMoreEntries }
    | some (event, feedback) =>
      { data := { data with feedback := feedback }
        status := some .success
        output := some (.event event) }

def resendAfterUs : UInt64 := 3000
def batteryPeriodUs : UInt64 := 3500000

def dueSince (now last period : UInt64) : Bool := now ≥ last && now - last ≥ period

-- Whether the keep-alive counts the slot among the Steam Controllers in use.
def keepaliveActive (s : Section) (data : SlotData) : Bool :=
  s.isActive && data.selectedProfile.isSteamController && data.haveLastInput

-- A slot's part of a keep-alive tick. Without a reader only the clock moves; the
-- battery goes out every few seconds and the state when nothing else has gone out.
def keepalive (s : Section) (data : SlotData) : StepResult :=
  if !s.keepaliveActive data then
    { data := data }
  else if !data.pump.ready then
    { data := { data with sc26 := { data.sc26 with lastReportUs := s.now } } }
  else
    let batteryDue := dueSince s.now data.sc26.lastBatteryUs batteryPeriodUs
    let data := if batteryDue then
      { (data.enqueue (batteryReport data)).2 with
        sc26 := { data.sc26 with lastBatteryUs := s.now } } else data
    let resendDue := dueSince s.now data.sc26.lastReportUs resendAfterUs
    if !resendDue && !batteryDue then
      { data := data }
    else if resendDue then
      let (report, data) := data.encodeSteam data.lastInput s.now
      { s.pumpReport (some (report.queued .continuous)) false data with rearm := false }
    else
      { s.pumpReport none false data with rearm := false }

end Section

def SlotStep.run (s : Section) (data : SlotData) : SlotStep → StepResult
  | .input owner request => s.input owner request data
  | .beginUpdate owner update => s.beginUpdate owner update data
  | .applyUpdate update => s.applyUpdate update data
  | .carryMotion => s.carryMotion data
  | .profileReport kind => s.profileReport kind data
  | .pumpReport report answers => s.pumpReport report answers data
  | .ready => s.ready data
  | .write transfer => s.write transfer data
  | .getFeature transfer => s.getFeature transfer data
  | .setFeature transfer => s.setFeature transfer data
  | .getInputReport transfer => s.getInputReport transfer data
  | .query owner => s.query owner data
  | .attributes owner request => s.attributes owner request data
  | .poll owner => s.poll owner data
  | .keepalive => s.keepalive data

end LibVirtualGamepad
