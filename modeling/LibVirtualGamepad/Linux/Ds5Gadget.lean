import Mathlib.Algebra.Order.Ring.Int
import Mathlib.Data.Int.Bitwise
import Mathlib.Logic.Function.Basic
import Mathlib.Tactic.Common

-- The DualSense gadget's control device: four slots, and the files that are open on it.
namespace LibVirtualGamepad.Ds5Gadget

abbrev slotCount : Nat := 4
def inputSize : Nat := 64
def eventFifoSize : Nat := 16
def eventDataSize : Nat := 512

-- Two words in front of the data.
def eventSize : Nat := 8 + eventDataSize

abbrev SlotId := Fin slotCount
abbrev FileId := Nat

inductive Errno where
  | fault
  | inval
  | busy
  | nodev
  | notty
  | again
  | restartsys
  | queue (code : Int)
  deriving DecidableEq

inductive EventType where
  | output
  | pcm
  deriving DecidableEq

structure Event where
  type : EventType
  data : List UInt8
  deriving DecidableEq

structure Gadget where
  connected : Bool
  deriving DecidableEq

structure Slot where
  gadget : Option Gadget
  mac : Vector UInt8 6
  events : List Event
  input : Vector UInt8 inputSize
  created : Bool
  hidEnabled : Bool
  intInBusy : Bool
  -- The buffer of the interrupt IN request.
  reqIntIn : Vector UInt8 inputSize
  deriving DecidableEq

namespace Slot

def connect (slot : Slot) : Slot :=
  { slot with gadget := slot.gadget.map fun gadget => { gadget with connected := true } }

def disconnect (slot : Slot) : Slot :=
  { slot with gadget := slot.gadget.map fun gadget => { gadget with connected := false } }

-- A full queue drops the event.
def pushEvent (type : EventType) (data : List UInt8) (slot : Slot) : Slot :=
  if slot.events.length < eventFifoSize then
    { slot with events := slot.events ++ [{ type := type, data := data.take eventDataSize }] }
  else
    slot

def enableHid (ready : Bool) (slot : Slot) : Slot :=
  if slot.hidEnabled then slot else { slot with hidEnabled := ready }

def disableHid (slot : Slot) : Slot :=
  if slot.hidEnabled then { slot with hidEnabled := false, intInBusy := false } else slot

end Slot

abbrev Slots := SlotId → Slot

-- What a call leaves behind for the file it is made on.
structure Outcome where
  slots : Slots
  privateData : Option SlotId
  result : Except Errno Nat

structure Create where
  slot : UInt32
  mac : Vector UInt8 6

-- `copied` is none when the argument cannot be read.
inductive Ioctl where
  | create (copied : Option Create)
  | destroy
  | other

def ds5Open (slots : Slots) : Outcome :=
  { slots := slots, privateData := none, result := .ok 0 }

def ds5Release (slots : Slots) (privateData : Option SlotId) : Outcome :=
  match privateData with
  | none => { slots := slots, privateData := none, result := .ok 0 }
  | some id =>
    let slot := slots id
    let slot := if slot.created && slot.gadget.isSome then slot.disconnect else slot
    { slots := Function.update slots id { slot with created := false }
      privateData := none
      result := .ok 0 }

def ds5Create (copied : Option Create) (slots : Slots) (privateData : Option SlotId) : Outcome :=
  let refuse (errno : Errno) : Outcome :=
    { slots := slots, privateData := privateData, result := .error errno }
  match copied with
  | none => refuse .fault
  | some create =>
    if h : create.slot.toNat < slotCount then
      let id : SlotId := ⟨create.slot.toNat, h⟩
      let slot := slots id
      if slot.created then
        refuse .busy
      else if slot.gadget.isNone then
        refuse .nodev
      else
        let slot := { slot with mac := create.mac, events := [], created := true }
        { slots := Function.update slots id slot.connect
          privateData := some id
          result := .ok 0 }
    else
      refuse .inval

def ds5Destroy (slots : Slots) (privateData : Option SlotId) : Outcome :=
  match privateData with
  | none => { slots := slots, privateData := none, result := .error .nodev }
  | some id =>
    let slot := (slots id).disconnect
    { slots := Function.update slots id { slot with created := false }
      privateData := none
      result := .ok 0 }

def ds5Ioctl (cmd : Ioctl) (slots : Slots) (privateData : Option SlotId) : Outcome :=
  match cmd with
  | .create copied => ds5Create copied slots privateData
  | .destroy => ds5Destroy slots privateData
  | .other => { slots := slots, privateData := privateData, result := .error .notty }

-- The report is stored, and put on the interrupt endpoint unless the last one is still
-- there. `queue` is what the endpoint answers.
def Slot.feed (slot : Slot) (report : Vector UInt8 inputSize) (queue : Int) :
    Slot × Option Errno :=
  let slot := { slot with input := report }
  if slot.hidEnabled && !slot.intInBusy then
    let slot := { slot with reqIntIn := report }
    if queue = 0 then
      ({ slot with intInBusy := true }, none)
    else
      ({ slot with intInBusy := false }, some (.queue queue))
  else
    (slot, none)

def ds5Write (count : Nat) (copied : Option (Vector UInt8 count)) (queue : Int) (slots : Slots)
    (privateData : Option SlotId) : Outcome :=
  let refuse (errno : Errno) : Outcome :=
    { slots := slots, privateData := privateData, result := .error errno }
  match privateData with
  | none => refuse .nodev
  | some id =>
    if !(slots id).created then
      refuse .nodev
    else if count < 1 ∨ inputSize < count then
      refuse .inval
    else
      match copied with
      | none => refuse .fault
      | some bytes =>
        let fed := (slots id).feed (Vector.ofFn fun i => bytes.toList.getD i 0) queue
        { slots := Function.update slots id fed.1
          privateData := privateData
          result := match fed.2 with
            | none => .ok count
            | some errno => .error errno }

-- A blocking read of an empty queue ends only when it is interrupted. An event that
-- cannot be copied out is lost.
def ds5Read (count : Nat) (nonblock copies : Bool) (slots : Slots) (privateData : Option SlotId) :
    Outcome :=
  let refuse (errno : Errno) : Outcome :=
    { slots := slots, privateData := privateData, result := .error errno }
  match privateData with
  | none => refuse .nodev
  | some id =>
    if count < eventSize then
      refuse .inval
    else
      match (slots id).events with
      | [] => refuse (if nonblock then .again else .restartsys)
      | _ :: rest =>
        { slots := Function.update slots id { slots id with events := rest }
          privateData := privateData
          result := if copies then .ok eventSize else .error .fault }

-- What the USB side does to a slot that has a gadget.
inductive HostOp where
  | enableHid (ready : Bool)
  | disableHid
  | intInComplete
  | outComplete (type : EventType) (data : List UInt8)
  | unbind

def HostOp.run (op : HostOp) (slot : Slot) : Slot :=
  match op with
  | .enableHid ready => slot.enableHid ready
  | .disableHid => slot.disableHid
  | .intInComplete => { slot with intInBusy := false }
  | .outComplete type data => slot.pushEvent type data
  | .unbind => { slot.disableHid with gadget := none }

def firstReport (input : Vector UInt8 inputSize) : Vector UInt8 inputSize :=
  Vector.ofFn fun i => if i.val = 0 then 0x01 else if i.val < 5 then 0x80 else input[i]

-- A gadget takes the first slot that has none; when its endpoints or requests are
-- missing it stays there all the same.
def ds5Bind (ready : Bool) (slots : Slots) : Slots :=
  match (List.finRange slotCount).find? fun id => (slots id).gadget.isNone with
  | none => slots
  | some id =>
    let slot := { slots id with gadget := some { connected := false } }
    Function.update slots id (if ready then { slot with input := firstReport slot.input } else slot)

structure State where
  slots : Slots
  -- None where the file is not open.
  files : FileId → Option (Option SlotId)

inductive FileOp where
  | ioctl (cmd : Ioctl)
  | write (count : Nat) (copied : Option (Vector UInt8 count)) (queue : Int)
  | read (count : Nat) (nonblock copies : Bool)
  | release

namespace FileOp

def run (op : FileOp) (slots : Slots) (privateData : Option SlotId) : Outcome :=
  match op with
  | .ioctl cmd => ds5Ioctl cmd slots privateData
  | .write count copied queue => ds5Write count copied queue slots privateData
  | .read count nonblock copies => ds5Read count nonblock copies slots privateData
  | .release => ds5Release slots privateData

def closes : FileOp → Bool
  | .release => true
  | .ioctl _ | .write _ _ _ | .read _ _ _ => false

end FileOp

inductive Op where
  | openFile (file : FileId)
  | onFile (file : FileId) (op : FileOp)
  | bind (ready : Bool)
  | host (slot : SlotId) (op : HostOp)

-- Calls reach the device on open files only, and a file number is not open twice.
def step (st : State) (op : Op) : State :=
  match op with
  | .openFile file =>
    match st.files file with
    | some _ => st
    | none =>
      let out := ds5Open st.slots
      { slots := out.slots, files := Function.update st.files file (some out.privateData) }
  | .onFile file op =>
    match st.files file with
    | none => st
    | some privateData =>
      let out := op.run st.slots privateData
      { slots := out.slots
        files := Function.update st.files file
          (if op.closes then none else some out.privateData) }
  | .bind ready => { st with slots := ds5Bind ready st.slots }
  | .host id op =>
    if (st.slots id).gadget.isSome then
      { st with slots := Function.update st.slots id (op.run (st.slots id)) }
    else
      st

def run (st : State) (ops : List Op) : State := ops.foldl step st

-- The module has been loaded: nothing is created and no file is open.
structure Loaded (st : State) : Prop where
  idle : ∀ id, (st.slots id).created = false
  closed : ∀ file, st.files file = none

end LibVirtualGamepad.Ds5Gadget
