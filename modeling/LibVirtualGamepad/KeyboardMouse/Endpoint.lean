import LibVirtualGamepad.Sc26Usb

-- The keyboard and mouse producer: a queue of reports, the held keys and buttons,
-- and one report of credit for each readiness.
namespace LibVirtualGamepad.KeyboardMouse

def abiVersion : UInt16 := 1
def keyboardReportId : UInt8 := 1
def relativeReportId : UInt8 := 2
def absoluteReportId : UInt8 := 3
def consumerReportId : UInt8 := 4
def primaryAbsoluteGeneration : UInt32 := 1
def queueCapacity : Nat := 64
abbrev keyboardBytes : Nat := 29

-- A file object, none for a null one.
abbrev OwnerToken := Option Nat

inductive Result where
  | accepted
  | unchanged
  | invalid
  | notOwner
  | notReady
  | busy
  | unsupported
  deriving DecidableEq

inductive Lifecycle where
  | closed
  | active
  | closing
  | drained
  | faulted
  deriving DecidableEq

structure Report where
  bytes : List UInt8
  deriving DecidableEq

structure KeyboardRequest where
  header : RequestHeader
  usage : UInt16
  pressed : UInt8
  reserved : UInt8

structure ConsumerRequest where
  header : RequestHeader
  usage : UInt16
  pressed : UInt8
  reserved : UInt8

structure ButtonRequest where
  header : RequestHeader
  button : UInt8
  pressed : UInt8
  reserved : UInt16

structure RelativeRequest where
  header : RequestHeader
  x : Int16
  y : Int16
  wheel : Int8
  pan : Int8
  reserved : UInt16

structure AbsoluteRequest where
  header : RequestHeader
  x : UInt16
  y : UInt16
  targetGeneration : UInt32

inductive Request where
  | keyboard (request : KeyboardRequest)
  | consumer (request : ConsumerRequest)
  | button (request : ButtonRequest)
  | relative (request : RelativeRequest)
  | absolute (request : AbsoluteRequest)

def validHeader (size : UInt32) (header : RequestHeader) : Bool :=
  header.size == size && header.version == abiVersion && header.reserved == 0

def Request.valid : Request → Bool
  | .keyboard request => validHeader 12 request.header
  | .consumer request => validHeader 12 request.header
  | .button request => validHeader 12 request.header
  | .relative request => validHeader 16 request.header
  | .absolute request => validHeader 16 request.header

structure Endpoint where
  owner : OwnerToken
  state : Lifecycle
  absoluteGeneration : UInt32
  keys : Vector UInt8 keyboardBytes
  buttons : UInt8
  consumerButtons : UInt8
  queue : List Report
  retained : Report
  credit : Bool

namespace Endpoint

-- What is left after the child has been deleted.
def reset : Endpoint where
  owner := none
  state := .closed
  absoluteGeneration := 0
  keys := Vector.replicate _ 0
  buttons := 0
  consumerButtons := 0
  queue := []
  retained := ⟨[]⟩
  credit := false

def admission (endpoint : Endpoint) (owner : OwnerToken) : Result :=
  if endpoint.state ≠ .active then .notReady
  else if owner = none ∨ owner ≠ endpoint.owner then .notOwner
  else .accepted

def openBy (endpoint : Endpoint) (owner : OwnerToken) (generation : UInt32) : Result × Endpoint :=
  if owner = none then
    (.invalid, endpoint)
  else if endpoint.state ≠ .closed then
    (.busy, endpoint)
  else
    (.accepted, { reset with owner := owner, absoluteGeneration := generation, state := .active })

def enqueue (endpoint : Endpoint) (report : Report) : Endpoint :=
  { endpoint with queue := endpoint.queue ++ [report] }

def keyboardReport (endpoint : Endpoint) : Report := ⟨keyboardReportId :: endpoint.keys.toList⟩

def consumerReport (endpoint : Endpoint) : Report := ⟨[consumerReportId, endpoint.consumerButtons]⟩

def relativeReport (endpoint : Endpoint) (x y : Int16) (wheel pan : Int8) : Report :=
  ⟨[relativeReportId, endpoint.buttons] ++ Sc26Usb.leInt16 x ++ Sc26Usb.leInt16 y ++
    [wheel.toUInt8, pan.toUInt8]⟩

def absoluteReport (request : AbsoluteRequest) : Report :=
  ⟨[absoluteReportId, 0] ++ le16 (request.x >>> 1) ++ le16 (request.y >>> 1)⟩

-- A mask with its bit set or cleared.
def press (mask bit : UInt8) (pressed : Bool) : UInt8 :=
  if pressed then mask ||| bit else mask &&& ~~~bit

def consumerBit (usage : UInt16) : Option UInt8 :=
  if usage = 0x00E2 then some 0x01
  else if usage = 0x00E9 then some 0x02
  else if usage = 0x00EA then some 0x04
  else if usage = 0x00CD then some 0x08
  else if usage = 0x00B5 then some 0x10
  else if usage = 0x00B6 then some 0x20
  else if usage = 0x00B7 then some 0x40
  else none

-- The byte of the key bitmap and the bit in it, for the usages that are keys.
def keyBit (usage : UInt16) : Option (Fin keyboardBytes × UInt8) :=
  if h : 4 ≤ usage.toNat ∧ usage.toNat ≤ 0xE7 then
    some (⟨usage.toNat / 8, by show usage.toNat / 8 < 29; omega⟩, 1 <<< UInt8.ofNat (usage.toNat % 8))
  else
    none

def submitKeyboard (endpoint : Endpoint) (request : KeyboardRequest) : Result × Endpoint :=
  if request.reserved ≠ 0 ∨ 1 < request.pressed.toNat then
    (.invalid, endpoint)
  else
    match keyBit request.usage with
    | none => (.invalid, endpoint)
    | some (index, bit) =>
      let pressed := request.pressed != 0
      if (endpoint.keys[index] &&& bit != 0) = pressed then
        (.unchanged, endpoint)
      else if endpoint.queue.length = queueCapacity then
        (.busy, endpoint)
      else
        let endpoint := { endpoint with
          keys := endpoint.keys.set index (press endpoint.keys[index] bit pressed) }
        (.accepted, endpoint.enqueue endpoint.keyboardReport)

def submitButton (endpoint : Endpoint) (request : ButtonRequest) : Result × Endpoint :=
  if request.reserved ≠ 0 ∨ 1 < request.pressed.toNat ∨ request.button.toNat < 1 ∨
      5 < request.button.toNat then
    (.invalid, endpoint)
  else
    let bit : UInt8 := 1 <<< (request.button - 1)
    let pressed := request.pressed != 0
    if (endpoint.buttons &&& bit != 0) = pressed then
      (.unchanged, endpoint)
    else if endpoint.queue.length = queueCapacity then
      (.busy, endpoint)
    else
      let endpoint := { endpoint with buttons := press endpoint.buttons bit pressed }
      (.accepted, endpoint.enqueue (endpoint.relativeReport 0 0 0 0))

def submitConsumer (endpoint : Endpoint) (request : ConsumerRequest) : Result × Endpoint :=
  if request.reserved ≠ 0 ∨ 1 < request.pressed.toNat then
    (.invalid, endpoint)
  else
    match consumerBit request.usage with
    | none => (.invalid, endpoint)
    | some bit =>
      let pressed := request.pressed != 0
      if (endpoint.consumerButtons &&& bit != 0) = pressed then
        (.unchanged, endpoint)
      else if endpoint.queue.length = queueCapacity then
        (.busy, endpoint)
      else
        let endpoint := { endpoint with
          consumerButtons := press endpoint.consumerButtons bit pressed }
        (.accepted, endpoint.enqueue endpoint.consumerReport)

def submitRelative (endpoint : Endpoint) (request : RelativeRequest) : Result × Endpoint :=
  if request.reserved ≠ 0 ∨ request.wheel = -128 ∨ request.pan = -128 then
    (.invalid, endpoint)
  else if request.x = 0 ∧ request.y = 0 ∧ request.wheel = 0 ∧ request.pan = 0 then
    (.unchanged, endpoint)
  else if endpoint.queue.length = queueCapacity then
    (.busy, endpoint)
  else
    (.accepted, endpoint.enqueue
      (endpoint.relativeReport request.x request.y request.wheel request.pan))

def submitAbsolute (endpoint : Endpoint) (request : AbsoluteRequest) : Result × Endpoint :=
  if endpoint.absoluteGeneration = 0 then
    (.unsupported, endpoint)
  else if request.targetGeneration ≠ endpoint.absoluteGeneration then
    (.notReady, endpoint)
  else if endpoint.queue.length = queueCapacity then
    (.busy, endpoint)
  else
    (.accepted, endpoint.enqueue (absoluteReport request))

-- Admission and the header come first, whatever the request.
def submit (endpoint : Endpoint) (owner : OwnerToken) (request : Request) : Result × Endpoint :=
  if endpoint.admission owner ≠ .accepted then
    (endpoint.admission owner, endpoint)
  else if !request.valid then
    (.invalid, endpoint)
  else
    match request with
    | .keyboard request => endpoint.submitKeyboard request
    | .consumer request => endpoint.submitConsumer request
    | .button request => endpoint.submitButton request
    | .relative request => endpoint.submitRelative request
    | .absolute request => endpoint.submitAbsolute request

-- Waiting input gives way to one neutral report of each kind.
def close (endpoint : Endpoint) (owner : OwnerToken) : Result × Endpoint :=
  if owner = none ∨ owner ≠ endpoint.owner then
    (.notOwner, endpoint)
  else if endpoint.state = .closing then
    (.unchanged, endpoint)
  else if endpoint.state ≠ .active then
    (.notReady, endpoint)
  else
    let endpoint := { endpoint with
      state := .closing
      queue := []
      keys := Vector.replicate _ 0
      buttons := 0
      consumerButtons := 0 }
    (.accepted, ((endpoint.enqueue endpoint.keyboardReport).enqueue
      (endpoint.relativeReport 0 0 0 0)).enqueue endpoint.consumerReport)

def readyForReport (endpoint : Endpoint) : Endpoint :=
  if endpoint.state ≠ .active ∧ endpoint.state ≠ .closing then
    endpoint
  else if endpoint.state = .closing ∧ endpoint.queue.isEmpty then
    { endpoint with state := .drained, credit := false }
  else
    { endpoint with credit := true }

def takeReport (endpoint : Endpoint) : Option Report × Endpoint :=
  match endpoint.queue with
  | [] => (none, endpoint)
  | report :: rest =>
    if !endpoint.credit ∨ (endpoint.state ≠ .active ∧ endpoint.state ≠ .closing) then
      (none, endpoint)
    else
      (some report, { endpoint with retained := report, queue := rest, credit := false })

def submissionFailed (endpoint : Endpoint) : Endpoint :=
  if endpoint.state = .closed then endpoint
  else { endpoint with state := .faulted, credit := false, queue := [] }

-- The held state that a request asks for.
def held (endpoint : Endpoint) : Request → Endpoint
  | .keyboard request =>
    match keyBit request.usage with
    | some (index, bit) => { endpoint with
        keys := endpoint.keys.set index (press endpoint.keys[index] bit (request.pressed != 0)) }
    | none => endpoint
  | .consumer request =>
    match consumerBit request.usage with
    | some bit => { endpoint with
        consumerButtons := press endpoint.consumerButtons bit (request.pressed != 0) }
    | none => endpoint
  | .button request => { endpoint with
      buttons := press endpoint.buttons (1 <<< (request.button - 1)) (request.pressed != 0) }
  | .relative _ | .absolute _ => endpoint

end Endpoint

end LibVirtualGamepad.KeyboardMouse
