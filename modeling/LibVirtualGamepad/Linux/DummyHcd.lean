import Mathlib.Algebra.Order.Ring.Int
import Mathlib.Data.Int.Bitwise
import Mathlib.Logic.Function.Basic
import Mathlib.Tactic.Common

-- The virtual host controller: the URBs the host has queued, the gadget's endpoints, and the
-- timer that carries packets between them. The timer gives its lock up whenever it gives a
-- request or an URB back, so a run of it is several steps here, and the others take theirs
-- in between.
namespace LibVirtualGamepad.DummyHcd

def einprogress : Int := -115
def eproto : Int := -71
def epipe : Int := -32
def enosr : Int := -63
def eoverflow : Int := -75

abbrev dummyEndpoints : Nat := 27
abbrev EpIndex := Fin dummyEndpoints
abbrev UrbpId := Nat

inductive Speed where
  | low
  | full
  | high
  | super
  deriving DecidableEq

namespace Speed

-- The bytes that one run of the timer may move.
def bandwidth : Speed → Int
  | .low => 8 * 12
  | .full => 64 * 19
  | .high => 512 * 13 * 8
  | .super => 490000

-- The service interval counts microframes from high speed on, and frames below.
def frameNs : Speed → UInt64
  | .low => 1000000
  | .full => 1000000
  | .high => 125000
  | .super => 125000

end Speed

inductive Pipe where
  | control
  | isochronous
  | bulk
  | interrupt
  deriving DecidableEq

structure IsoPacketDescriptor where
  length : Nat
  actualLength : Nat
  status : Int
  deriving DecidableEq

structure Urb where
  pipe : Pipe
  -- The endpoint's number, with the direction in the top bit.
  address : UInt8
  interval : Int32
  isoFrameDesc : List IsoPacketDescriptor
  hasBuffer : Bool
  actualLength : Nat
  errorCount : Nat
  unlinked : Int
  deriving DecidableEq

namespace Urb

def numberOfPackets (urb : Urb) : Nat := urb.isoFrameDesc.length

def serviceNs (speed : Speed) (urb : Urb) : UInt64 :=
  UInt64.ofNat (max urb.interval.toInt 1).toNat * speed.frameNs

def setFrame (frame actualLength : Nat) (status : Int) (urb : Urb) : Urb :=
  { urb with
    isoFrameDesc := urb.isoFrameDesc.modify frame fun iso =>
      { iso with actualLength := actualLength, status := status } }

def frameLength (frame : Nat) (urb : Urb) : Nat :=
  (urb.isoFrameDesc[frame]?.map fun iso => iso.length).getD 0

def frameStatus (frame : Nat) (urb : Urb) : Int :=
  (urb.isoFrameDesc[frame]?.map fun iso => iso.status).getD 0

def countError (frame : Nat) (urb : Urb) : Urb :=
  if urb.frameStatus frame ≠ 0 then { urb with errorCount := urb.errorCount + 1 } else urb

end Urb

structure Urbp where
  id : UrbpId
  urb : Urb
  isoPacket : Nat
  deriving DecidableEq

structure Request where
  length : Nat
  actual : Nat
  hasBuffer : Bool
  status : Int
  deriving DecidableEq

structure Ep where
  isoNextNs : UInt64
  queue : List Request
  -- The address the endpoint is enabled at.
  desc : Option UInt8
  halted : Bool
  alreadySeen : Bool
  setupStage : Bool
  deriving DecidableEq

inductive RhState where
  | reset
  | suspended
  | running
  deriving DecidableEq

-- Where the timer is. It holds the lock while it walks the list, with the entry it comes to
-- next, none being the end of the list.
inductive Timer where
  | idle
  | walking (urbp : Option UrbpId) (total : Int)
  -- A packet's request goes back to the gadget.
  | giving (urbp : UrbpId) (tmp : Option UrbpId) (ep : EpIndex) (frame : Nat) (total : Int)
  -- A control request or a transfer that is not isochronous.
  | moving (urbp : UrbpId) (tmp : Option UrbpId) (ep : EpIndex) (total : Int)
  -- An URB goes back to the host.
  | returning (total : Int)
  deriving DecidableEq

namespace Timer

def lockFree : Timer → Bool
  | .walking _ _ => false
  | .idle | .giving _ _ _ _ _ | .moving _ _ _ _ | .returning _ => true

end Timer

structure Hcd where
  speed : Speed
  active : Bool
  intsEnabled : Bool
  rhState : RhState
  -- Whether the device of the queued URBs is held.
  udev : Bool
  ep : EpIndex → Ep
  urbpList : List Urbp
  nextFrameUrbp : Option UrbpId
  nextId : UrbpId
  timer : Timer
  -- What the clock read last.
  clock : UInt64

inductive Event where
  | enqueued (id : UrbpId) (urb : Urb)
  | served (ep : EpIndex) (id : UrbpId) (frame : Nat) (now : UInt64)
  | requestDone (ep : EpIndex) (req : Request)
  | givenBack (id : UrbpId) (status : Int)
  deriving DecidableEq

abbrev Outcome := Hcd × List Event

namespace Hcd

def setEp (e : EpIndex) (ep : Ep) (hcd : Hcd) : Hcd :=
  { hcd with ep := Function.update hcd.ep e ep }

def putUrbp (urbp : Urbp) (hcd : Hcd) : Hcd :=
  { hcd with urbpList := hcd.urbpList.map fun other => if other.id = urbp.id then urbp else other }

def find (id : UrbpId) (hcd : Hcd) : Option Urbp :=
  hcd.urbpList.find? fun urbp => urbp.id = id

def walk (next : Option UrbpId) (total : Int) (hcd : Hcd) : Hcd :=
  { hcd with timer := .walking next total }

def head (hcd : Hcd) : Option UrbpId :=
  hcd.urbpList.head?.map fun urbp => urbp.id

def findEndpoint (address : UInt8) (hcd : Hcd) : Option EpIndex :=
  if !hcd.active then
    none
  else if !hcd.intsEnabled then
    none
  else if address &&& 0x7F = 0 then
    some 0
  else
    (List.finRange dummyEndpoints).find? fun e => e ≠ 0 ∧ (hcd.ep e).desc = some address

end Hcd

def nextAfter (id : UrbpId) : List Urbp → Option UrbpId
  | [] => none
  | urbp :: rest =>
    if urbp.id = id then rest.head?.map fun next => next.id else nextAfter id rest

-- The URB leaves the list, and goes back with the lock given up. Afterwards the walk starts
-- over from the head.
def returnUrb (id : UrbpId) (ep : Option EpIndex) (status : Int) (total : Int) (hcd : Hcd) :
    Outcome :=
  let hcd := { hcd with urbpList := hcd.urbpList.filter fun urbp => urbp.id ≠ id }
  let hcd := match ep with
    | none => hcd
    | some e => hcd.setEp e { hcd.ep e with alreadySeen := false, setupStage := false }
  ({ hcd with timer := .returning total }, [.givenBack id status])

-- Late by no more than eight intervals the packets catch up; later than that they start anew.
def isoNext (now interval next : UInt64) : UInt64 :=
  (if next = 0 ∨ next + 8 * interval < now then now else next) + interval

-- What a service does after its request is back.
def finishIso (id : UrbpId) (tmp : Option UrbpId) (e : EpIndex) (frame : Nat) (total : Int)
    (hcd : Hcd) : Option Outcome := do
  let urbp ← hcd.find id
  let hcd := hcd.putUrbp { urbp with urb := urbp.urb.countError frame }
  if urbp.isoPacket = urbp.urb.numberOfPackets then
    return returnUrb id (some e) 0 total hcd
  else
    return (hcd.walk tmp total, [])

-- One packet for one interval of the endpoint.
def serveIso (now : UInt64) (urbp : Urbp) (tmp : Option UrbpId) (e : EpIndex) (total : Int)
    (hcd : Hcd) : Option Outcome :=
  let ep := hcd.ep e
  if now < ep.isoNextNs then
    some (hcd.walk tmp total, [])
  else
    let next := isoNext now (urbp.urb.serviceNs hcd.speed) ep.isoNextNs
    let frame := urbp.isoPacket
    let urb := urbp.urb.setFrame frame 0 enosr
    let served := Event.served e urbp.id frame now
    match ep.queue with
    | [] => do
      let hcd := hcd.setEp e { ep with isoNextNs := next }
      let hcd := hcd.putUrbp { urbp with urb := urb, isoPacket := frame + 1 }
      let (hcd, events) ← finishIso urbp.id tmp e frame total hcd
      return (hcd, served :: events)
    | req :: rest =>
      let len := min (urb.frameLength frame) (req.length - req.actual)
      let moved := if len ≠ 0 ∧ urb.hasBuffer ∧ req.hasBuffer then len else 0
      let urb := { urb with actualLength := urb.actualLength + moved }
      let urb := urb.setFrame frame len (if len = urb.frameLength frame then 0 else eoverflow)
      let req := { req with actual := req.actual + moved, status := 0 }
      let hcd := hcd.setEp e { ep with isoNextNs := next, queue := rest }
      let hcd := hcd.putUrbp { urbp with urb := urb, isoPacket := frame + 1 }
      some ({ hcd with timer := .giving urbp.id tmp e frame total },
        [served, .requestDone e req])

-- A control URB that is new.
def beginSetup (urbp : Urbp) (hcd : Hcd) : Hcd :=
  (hcd.setEp 0 { hcd.ep 0 with setupStage := true }).putUrbp
    { urbp with urb := { urbp.urb with errorCount := 0 } }

-- One turn of the loop, up to its next turn or to where the lock is given up.
def visit (now : UInt64) (id : UrbpId) (total : Int) (hcd : Hcd) : Option Outcome := do
  let urbp ← hcd.find id
  let tmp := nextAfter id hcd.urbpList
  if hcd.nextFrameUrbp = some id then
    return (hcd.walk none total, [])
  else if urbp.urb.unlinked ≠ 0 then
    return returnUrb id none einprogress total hcd
  else if hcd.rhState ≠ .running then
    return (hcd.walk tmp total, [])
  else if total ≤ 0 then
    return (hcd.walk tmp total, [])
  else
    match hcd.findEndpoint urbp.urb.address with
    | none => return returnUrb id none eproto total hcd
    | some e =>
      if (hcd.ep e).alreadySeen then
        return (hcd.walk tmp total, [])
      else
        let hcd := hcd.setEp e { hcd.ep e with alreadySeen := true }
        let hcd := if e = 0 ∧ urbp.urb.errorCount ≠ 0 then beginSetup urbp hcd else hcd
        if (hcd.ep e).halted ∧ !(hcd.ep e).setupStage then
          return returnUrb id (some e) epipe total hcd
        else if e = 0 ∧ (hcd.ep e).setupStage then
          return ({ hcd with timer := .moving id tmp e total }, [])
        else
          match urbp.urb.pipe with
          | .isochronous => serveIso now urbp tmp e total hcd
          | .control | .bulk | .interrupt =>
            return ({ hcd with timer := .moving id tmp e total }, [])

-- How a control request or a transfer ends: over a stale request the walk starts over,
-- otherwise bytes have been moved and the URB has a status.
inductive Moved where
  | stale
  | transferred (sent : Int) (status : Int)
  | answered (status : Int)
  deriving DecidableEq

inductive Step where
  | fire
  | visit (now : UInt64)
  | gadgetReturned
  | moved (how : Moved)
  | hostReturned
  | enqueue (urb : Urb)
  | dequeue (id : UrbpId) (status : Int)
  | queueRequest (ep : EpIndex) (req : Request)
  | dropRequest (ep : EpIndex) (index : Nat)
  | enable (ep : EpIndex) (address : UInt8)
  | disable (ep : EpIndex)
  | setHalt (ep : EpIndex) (value : Bool)
  | bus (active intsEnabled : Bool) (rhState : RhState)
  deriving DecidableEq

-- The timer fires only while URBs hold a device.
def fire (hcd : Hcd) : Hcd :=
  if hcd.udev then
    let hcd := { hcd with
      nextFrameUrbp := none
      ep := fun e => { hcd.ep e with alreadySeen := false } }
    hcd.walk hcd.head hcd.speed.bandwidth
  else
    hcd

-- Past the end of the list.
def rest (hcd : Hcd) : Hcd :=
  { hcd with timer := .idle, udev := !hcd.urbpList.isEmpty }

def finishMove (id : UrbpId) (tmp : Option UrbpId) (e : EpIndex) (total : Int) (how : Moved)
    (hcd : Hcd) : Outcome :=
  match how with
  | .stale =>
    let hcd := hcd.setEp e { hcd.ep e with alreadySeen := false }
    (hcd.walk hcd.head total, [])
  | .transferred sent status =>
    if status = einprogress then
      (hcd.walk tmp (total - sent), [])
    else
      returnUrb id (some e) status (total - sent) hcd
  | .answered status => returnUrb id (some e) status total hcd

def dummyUrbEnqueue (urb : Urb) (hcd : Hcd) : Outcome :=
  let id := hcd.nextId
  let errorCount := if urb.pipe = .control then 1 else urb.errorCount
  let linked := { urb with unlinked := 0, errorCount := errorCount }
  ({ hcd with
      udev := true
      urbpList := hcd.urbpList ++ [{ id := id, urb := linked, isoPacket := 0 }]
      nextFrameUrbp := if hcd.nextFrameUrbp.isNone then some id else hcd.nextFrameUrbp
      nextId := id + 1 },
    [.enqueued id urb])

-- An URB is unlinked once, and only the timer takes it off the list.
def dummyUrbDequeue (id : UrbpId) (status : Int) (hcd : Hcd) : Hcd :=
  match hcd.find id with
  | none => hcd
  | some urbp =>
    if urbp.urb.unlinked ≠ 0 then
      hcd
    else
      hcd.putUrbp { urbp with urb := { urbp.urb with unlinked := status } }

def dummyQueue (e : EpIndex) (req : Request) (hcd : Hcd) : Hcd :=
  if e ≠ 0 ∧ (hcd.ep e).desc.isNone then
    hcd
  else
    let req := { req with status := einprogress, actual := 0 }
    hcd.setEp e { hcd.ep e with queue := (hcd.ep e).queue ++ [req] }

def dummyDequeue (e : EpIndex) (index : Nat) (hcd : Hcd) : Hcd :=
  hcd.setEp e { hcd.ep e with queue := (hcd.ep e).queue.eraseIdx index }

def dummySetHalt (e : EpIndex) (value : Bool) (hcd : Hcd) : Hcd :=
  hcd.setEp e { hcd.ep e with halted := value }

def dummyEnable (e : EpIndex) (address : UInt8) (hcd : Hcd) : Hcd :=
  if e = 0 ∨ (hcd.ep e).desc.isSome then
    hcd
  else
    hcd.setEp e { hcd.ep e with desc := some address, isoNextNs := 0, halted := false }

def dummyDisable (e : EpIndex) (hcd : Hcd) : Hcd :=
  if e = 0 ∨ (hcd.ep e).desc.isNone then
    hcd
  else
    hcd.setEp e { hcd.ep e with desc := none, queue := [] }

-- The clock counts nanoseconds in a signed word.
def ktimeMax : UInt64 := 0x8000000000000000

-- The result is none where the step cannot be taken: the lock is held, the timer is
-- elsewhere, or the clock would go back.
def step (hcd : Hcd) (op : Step) : Option Outcome :=
  let locked (outcome : Outcome) : Option Outcome :=
    if hcd.timer.lockFree then some outcome else none
  match op with
  | .fire => if hcd.timer = .idle then some (fire hcd, []) else none
  | .visit now =>
    if 0 < now ∧ hcd.clock ≤ now ∧ now < ktimeMax then
      match hcd.timer with
      | .walking none _ => some (rest hcd, [])
      | .walking (some id) total => visit now id total { hcd with clock := now }
      | _ => none
    else
      none
  | .gadgetReturned =>
    match hcd.timer with
    | .giving id tmp e frame total => finishIso id tmp e frame total hcd
    | _ => none
  | .moved how =>
    match hcd.timer with
    | .moving id tmp e total => some (finishMove id tmp e total how hcd)
    | _ => none
  | .hostReturned =>
    match hcd.timer with
    | .returning total => some (hcd.walk hcd.head total, [])
    | _ => none
  | .enqueue urb => locked (dummyUrbEnqueue urb hcd)
  | .dequeue id status => locked (dummyUrbDequeue id status hcd, [])
  | .queueRequest e req => locked (dummyQueue e req hcd, [])
  | .dropRequest e index => locked (dummyDequeue e index hcd, [])
  | .enable e address => some (dummyEnable e address hcd, [])
  | .disable e => locked (dummyDisable e hcd, [])
  | .setHalt e value => some (dummySetHalt e value hcd, [])
  | .bus active intsEnabled rhState =>
    locked ({ hcd with active := active, intsEnabled := intsEnabled, rhState := rhState }, [])

def run (hcd : Hcd) : List Step → Option Outcome
  | [] => some (hcd, [])
  | op :: ops => do
    let (hcd, events) ← step hcd op
    let (hcd, rest) ← run hcd ops
    return (hcd, events ++ rest)

-- The controller as it is started: nothing is queued and no timer runs.
structure Started (hcd : Hcd) : Prop where
  empty : hcd.urbpList = []
  idle : hcd.timer = .idle
  clock : hcd.clock = 0

end LibVirtualGamepad.DummyHcd
