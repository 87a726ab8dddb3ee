import LibVirtualGamepad.Driver.Feedback
import LibVirtualGamepad.DualSense
import LibVirtualGamepad.DualShock4
import LibVirtualGamepad.Profile
import LibVirtualGamepad.ReportPump.Order
import LibVirtualGamepad.SwitchPro
import LibVirtualGamepad.Xbox

namespace LibVirtualGamepad

-- `external` is a failure that a framework call reported.
inductive NtStatus where
  | success
  | invalidParameter
  | notSupported
  | notFound
  | accessDenied
  | deviceNotReady
  | devicePoweredOff
  | deviceBusy
  | deviceRemoved
  | noMoreEntries
  | invalidDeviceRequest
  | invalidHandle
  | bufferTooSmall
  | insufficientResources
  | cancelled
  | external (code : UInt32)
  deriving DecidableEq

def NtStatus.ok : NtStatus → Bool
  | .success => true
  | _ => false

abbrev File := Nat
abbrev Handle := Nat

inductive SlotState where
  | empty
  | starting
  | active
  | stopping
  | lost
  deriving DecidableEq

-- The lifecycle half of a controller slot.
structure SlotControl where
  generation : UInt64
  vhf : Option Handle
  owner : Option File
  state : SlotState
  submitsInFlight : Nat

def SlotControl.isOwnedBy (control : SlotControl) (owner : File) : Bool :=
  control.owner == some owner

-- The discrete part of a state report: for a Steam Controller the classified
-- button word, for the other profiles buttons, trigger presses and touch contacts.
inductive DiscreteWord where
  | steam (buttons : UInt32)
  | pad (buttons : UInt32) (leftTrigger rightTrigger : Bool) (touch : Vector Bool 2)
  deriving DecidableEq

-- What a state report carries, for the history: the number of input requests the
-- slot had kept when it was encoded, and its discrete word.
structure StateTag where
  number : Nat
  word : DiscreteWord
  deriving DecidableEq

structure QueuedReport where
  bytes : List UInt8
  reportId : UInt8
  kind : ReportKind
  tag : Option StateTag

structure PumpEvent where
  op : ReportPump.PumpOp
  tag : Option StateTag

-- What happened to a slot since its creation, oldest first. The code keeps no such
-- record; nothing below reads it.
structure SlotHistory where
  inputs : List InputStateRequest
  events : List PumpEvent

def SlotHistory.empty : SlotHistory := ⟨[], []⟩

-- The other half of a slot: the profile's state, the pump and what waits for the
-- owner. `history` is the record above.
structure SlotData where
  selectedProfile : Profile
  feedback : SlotFeedback
  playstationFeedback : PlaystationOutputFeedback
  haveLastInput : Bool
  lastInput : InputStateRequest
  ds4 : Ds4State
  ds5 : Ds5State
  switchPro : SwitchState
  sc26 : Sc26State
  sc26WireSequence : UInt8
  pump : ReportPump
  history : SlotHistory

-- Cleared memory. Profile states are set again before anything reads them.
def SlotData.zero : SlotData where
  selectedProfile := .other 0
  feedback := .zero
  playstationFeedback := .zero
  haveLastInput := false
  lastInput := .zero
  ds4 := .initial
  ds5 := .initial
  switchPro := .initial
  sc26 := .initial
  sc26WireSequence := 0
  pump := .zero
  history := .empty

structure Slot where
  control : SlotControl
  data : SlotData

-- Every field is cleared but the generation, which counts the resets.
def Slot.reset (slot : Slot) : Slot where
  control :=
    { generation := slot.control.generation + 1
      vhf := none
      owner := none
      state := .empty
      submitsInFlight := 0 }
  data := .zero

namespace SlotData

-- The serial carries the controller's number in its tenth and eleventh place.
def slotSerial (controllerId : UInt32) (serial : Vector UInt8 16) : Vector UInt8 16 :=
  let digit (value : Nat) : UInt8 := UInt8.ofNat (48 + value % 10)
  (serial.set 9 (digit (controllerId.toNat / 10))).set 10 (digit controllerId.toNat)

-- What create_controller writes into a slot it has just reset.
def created (controllerId : UInt32) (profile : Profile) : SlotData :=
  { zero with
    selectedProfile := profile
    ds4 := { Ds4State.initial with
      features := { Ds4State.initial.features with
        address := Ds4State.initial.features.address.set 0 controllerId.toUInt8 } }
    ds5 := { Ds5State.initial with
      features := { Ds5State.initial.features with
        address := Ds5State.initial.features.address.set 0 controllerId.toUInt8 } }
    sc26 := { Sc26State.initial with
      features := { Sc26State.initial.features with
        unitSerial := slotSerial controllerId Sc26State.initial.features.unitSerial } }
    pump := ReportPump.zero.reset }

def log (data : SlotData) (op : ReportPump.PumpOp) (tag : Option StateTag) : SlotHistory :=
  { data.history with events := data.history.events ++ [⟨op, tag⟩] }

def enqueue (data : SlotData) (report : QueuedReport) : Bool × SlotData :=
  let (kept, pump) := data.pump.enqueue (some report.bytes) report.reportId report.kind
  (kept, { data with
    pump := pump
    history := data.log (.enqueue (some report.bytes) report.reportId report.kind) report.tag })

def setReady (data : SlotData) : SlotData :=
  { data with pump := data.pump.setReady, history := data.log .setReady none }

-- Whether a report is a Steam Controller state report.
def isSc26State (data : SlotData) (report : ReportBuffer) : Bool :=
  report.reportId == Sc26Usb.inputReportId && data.selectedProfile.isSteamController

-- Number a Steam Controller state report as it leaves, in the pump's own buffer,
-- and note the time; other reports pass as they are.
def markSc26ReportTaken (data : SlotData) (now : UInt64) (report : ReportBuffer) : SlotData :=
  if data.isSc26State report then
    { data with
      pump := if report.data.length > 1 then
        { data.pump with inFlight := report.setByte 1 data.sc26WireSequence } else data.pump
      sc26WireSequence := if report.data.length > 1 then data.sc26WireSequence + 1
        else data.sc26WireSequence
      sc26 := { data.sc26 with lastReportUs := now } }
  else
    data

-- The next report VHF can accept, and whether it is a Steam state report.
def takeReport (data : SlotData) (now : UInt64) : Option Bool × SlotData :=
  let (taken, pump) := data.pump.take
  let data := { data with pump := pump, history := data.log .take none }
  match taken with
  | none => (none, data)
  | some report => (some (data.isSc26State report), data.markSc26ReportTaken now report)

def keepInput (data : SlotData) (request : InputStateRequest) : SlotData :=
  { data with
    lastInput := request
    haveLastInput := true
    history := { data.history with inputs := data.history.inputs ++ [request] } }

def setFeedback (data : SlotData) (event : FeedbackEvent) : SlotData :=
  { data with
    feedback := { data.feedback with feedback := event, feedbackPending := true } }

def classify (data : SlotData) (buttons : UInt32) (leftTrigger rightTrigger : UInt8) :
    ReportKind × SlotData :=
  let (kind, pump) := data.pump.classify buttons leftTrigger rightTrigger
  (kind, { data with pump := pump })

-- The tag of a report of this input, encoded now.
def padTag (data : SlotData) (input : InputStateRequest) (touch : Vector Bool 2) : StateTag :=
  { number := data.history.inputs.length
    word := .pad input.buttons (input.leftTrigger > 0) (input.rightTrigger > 0) touch }

-- An encoded state report that is not classified yet.
structure Encoded where
  bytes : List UInt8
  reportId : UInt8
  tag : StateTag

def Encoded.queued (encoded : Encoded) (kind : ReportKind) : QueuedReport where
  bytes := encoded.bytes
  reportId := encoded.reportId
  kind := kind
  tag := some encoded.tag

def encodePlaystation (data : SlotData) (input : InputStateRequest) (now : UInt64) :
    Encoded × SlotData :=
  if data.selectedProfile = .dualshock4 then
    let (report, ds4) := DualShock4.encodeDs4Input input data.ds4 now
    (⟨report.bytes, DualShock4.inputReportId, data.padTag input ds4.contacts.active⟩,
      { data with ds4 := ds4 })
  else
    let (report, ds5) := DualSense.encodeDs5Input input data.ds5 now
    (⟨report.bytes, DualSense.inputReportId, data.padTag input ds5.contacts.active⟩,
      { data with ds5 := ds5 })

def encodeSwitch (data : SlotData) (input : InputStateRequest) : Encoded × SlotData :=
  let (report, switchPro) := SwitchPro.encodeSwitchInput input data.switchPro
  (⟨report.bytes, SwitchPro.inputReportId, data.padTag input (Vector.replicate _ false)⟩,
    { data with switchPro := switchPro })

def encodeXbox (data : SlotData) (input : InputStateRequest) : Encoded :=
  let report := Xbox.encodeXboxSeriesInput input
  ⟨if data.selectedProfile = .xboxOne then Xbox.xboxOneBytes report else Xbox.xboxSeriesBytes report,
    Xbox.inputReportId, data.padTag input (Vector.replicate _ false)⟩

def encodeGeneric (data : SlotData) (input : InputStateRequest) : Encoded :=
  ⟨(Generic.encodeGenericInput input).bytes, Generic.inputReportId,
    data.padTag input (Vector.replicate _ false)⟩

-- A Steam report is stamped with the clock first. Its word leaves stick touches
-- that come from deflection out, as the state after the encoding says.
def encodeSteam (data : SlotData) (input : InputStateRequest) (now : UInt64) :
    Encoded × SlotData :=
  let (report, sc26) := SteamController.encodeSc26Input input (SteamController.sc26Tick now data.sc26)
  (⟨report.bytes, Sc26Usb.inputReportId,
      { number := data.history.inputs.length
        word := .steam (Sc26Usb.classifyButtons sc26.device report.buttons) }⟩,
    { data with sc26 := sc26 })

end SlotData

end LibVirtualGamepad
