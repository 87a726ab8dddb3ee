import Mathlib.Algebra.Order.Ring.Int
import Mathlib.Data.Int.Bitwise
import Mathlib.Data.List.Induction
import Mathlib.Tactic.Common

-- The DualSense gadget's configuration and alternate settings, and the endpoints they stand for.
namespace LibVirtualGamepad.Ds5Interfaces

def isoOutQ : Nat := 8
def isoInQ : Nat := 4

-- The requests on an endpoint are named by their index in the slot.
structure Endpoint where
  enabled : Bool
  queued : List Nat
  deriving DecidableEq

namespace Endpoint

def enable (ret : Int) (ep : Endpoint) : Endpoint :=
  if ret = 0 then { ep with enabled := true } else ep

def queue (ret : Int) (req : Nat) (ep : Endpoint) : Endpoint :=
  if ret = 0 then { ep with queued := ep.queued ++ [req] } else ep

def dequeue (req : Nat) (ep : Endpoint) : Endpoint :=
  { ep with queued := ep.queued.erase req }

-- A disabled endpoint gives its requests back.
def disable (_ep : Endpoint) : Endpoint :=
  { enabled := false, queued := [] }

@[simp] theorem queue_enabled (ret : Int) (req : Nat) (ep : Endpoint) :
    (ep.queue ret req).enabled = ep.enabled := by
  unfold queue
  split <;> rfl

@[simp] theorem disable_enabled (ep : Endpoint) : ep.disable.enabled = false := rfl

@[simp] theorem enable_zero (ep : Endpoint) : (ep.enable 0).enabled = true := rfl

theorem enable_failed {ret : Int} (hret : ret ≠ 0) (ep : Endpoint) : ep.enable ret = ep :=
  if_neg hret

end Endpoint

-- What usb_ep_enable and usb_ep_queue return in one request: zero, or an error.
structure Calls where
  enableIntIn : Int
  enableIntOut : Int
  enableIsoOut : Int
  enableIsoIn : Int
  queueIntOut : Int
  queueIsoOut : Nat → Int
  queueIsoIn : Nat → Int
  queueEp0 : Int

structure Slot where
  epIntIn : Endpoint
  epIntOut : Endpoint
  epIsoOut : Endpoint
  epIsoIn : Endpoint
  config : UInt8
  alt1 : UInt8
  alt2 : UInt8
  hidEnabled : Bool
  isoOutEnabled : Bool
  isoInEnabled : Bool
  intInBusy : Bool
  deriving DecidableEq

-- The OUT loop stops at the first request that is refused.
def queueOut (queue : Nat → Int) : List Nat → Endpoint → Endpoint
  | [], ep => ep
  | req :: rest, ep =>
    if queue req = 0 then queueOut queue rest (ep.queue (queue req) req) else ep

-- The IN loop does not look at what is returned.
def queueIn (queue : Nat → Int) : List Nat → Endpoint → Endpoint
  | [], ep => ep
  | req :: rest, ep => queueIn queue rest (ep.queue (queue req) req)

@[simp] theorem queueOut_enabled (queue : Nat → Int) (reqs : List Nat) (ep : Endpoint) :
    (queueOut queue reqs ep).enabled = ep.enabled := by
  induction reqs generalizing ep with
  | nil => rfl
  | cons req rest ih =>
      unfold queueOut
      split
      · rw [ih, Endpoint.queue_enabled]
      · rfl

@[simp] theorem queueIn_enabled (queue : Nat → Int) (reqs : List Nat) (ep : Endpoint) :
    (queueIn queue reqs ep).enabled = ep.enabled := by
  induction reqs generalizing ep with
  | nil => rfl
  | cons req rest ih =>
      unfold queueIn
      rw [ih, Endpoint.queue_enabled]

def dequeueAll (reqs : List Nat) (ep : Endpoint) : Endpoint :=
  reqs.foldl (fun ep req => ep.dequeue req) ep

namespace Slot

def enableHid (calls : Calls) (slot : Slot) : Slot × Int :=
  if slot.hidEnabled then
    (slot, 0)
  else
    let slot := { slot with epIntIn := slot.epIntIn.enable calls.enableIntIn }
    if calls.enableIntIn ≠ 0 then
      (slot, calls.enableIntIn)
    else
      let slot := { slot with epIntOut := slot.epIntOut.enable calls.enableIntOut }
      if calls.enableIntOut ≠ 0 then
        ({ slot with epIntIn := slot.epIntIn.disable }, calls.enableIntOut)
      else
        let slot := { slot with epIntOut := slot.epIntOut.queue calls.queueIntOut 0 }
        if calls.queueIntOut ≠ 0 then
          ({ slot with epIntOut := slot.epIntOut.disable, epIntIn := slot.epIntIn.disable },
            calls.queueIntOut)
        else
          ({ slot with hidEnabled := true }, 0)

def disableHid (slot : Slot) : Slot :=
  if slot.hidEnabled then
    { slot with
      hidEnabled := false
      epIntIn := (slot.epIntIn.dequeue 0).disable
      epIntOut := (slot.epIntOut.dequeue 0).disable
      intInBusy := false }
  else
    slot

def enableIsoOut (calls : Calls) (slot : Slot) : Slot × Int :=
  if slot.isoOutEnabled then
    (slot, 0)
  else
    let slot := { slot with epIsoOut := slot.epIsoOut.enable calls.enableIsoOut }
    if calls.enableIsoOut ≠ 0 then
      (slot, calls.enableIsoOut)
    else
      ({ slot with
        epIsoOut := queueOut calls.queueIsoOut (List.range isoOutQ) slot.epIsoOut
        isoOutEnabled := true }, 0)

def disableIsoOut (slot : Slot) : Slot :=
  if slot.isoOutEnabled then
    { slot with
      epIsoOut := (dequeueAll (List.range isoOutQ) slot.epIsoOut).disable
      isoOutEnabled := false }
  else
    slot

def enableIsoIn (calls : Calls) (slot : Slot) : Slot × Int :=
  if slot.isoInEnabled then
    (slot, 0)
  else
    let slot := { slot with epIsoIn := slot.epIsoIn.enable calls.enableIsoIn }
    if calls.enableIsoIn ≠ 0 then
      (slot, calls.enableIsoIn)
    else
      ({ slot with
        epIsoIn := queueIn calls.queueIsoIn (List.range isoInQ) slot.epIsoIn
        isoInEnabled := true }, 0)

def disableIsoIn (slot : Slot) : Slot :=
  if slot.isoInEnabled then
    { slot with
      epIsoIn := (dequeueAll (List.range isoInQ) slot.epIsoIn).disable
      isoInEnabled := false }
  else
    slot

end Slot

structure CtrlRequest where
  bRequestType : UInt8
  bRequest : UInt8
  wValue : UInt16
  wIndex : UInt16
  wLength : UInt16
  deriving DecidableEq

def einval : Int := -22

structure Reply where
  slot : Slot
  ret : Int
  -- What is put on endpoint 0.
  data : List UInt8

def queueEp0 (calls : Calls) (data : List UInt8) (wLength : UInt16) (slot : Slot) : Reply :=
  { slot := slot, ret := calls.queueEp0, data := data.take wLength.toNat }

def setConfiguration (calls : Calls) (wValue : UInt16) (slot : Slot) : Reply :=
  let slot := { slot with config := wValue.toUInt8 }
  if slot.config ≠ 0 then
    let (slot, n) := slot.enableHid calls
    if n ≠ 0 then
      { slot := { slot with config := 0 }, ret := n, data := [] }
    else
      queueEp0 calls [] 0 slot
  else
    let slot := slot.disableIsoOut.disableIsoIn.disableHid
    queueEp0 calls [] 0 { slot with alt1 := 0, alt2 := 0 }

-- Whatever enabling the endpoint returns is dropped.
def setInterface (calls : Calls) (wValue wIndex : UInt16) (slot : Slot) : Reply :=
  let alt := wValue.toUInt8
  let intf := wIndex.toUInt8
  if intf = 1 then
    let slot := { slot with alt1 := alt }
    queueEp0 calls [] 0 (if alt ≠ 0 then (slot.enableIsoOut calls).1 else slot.disableIsoOut)
  else if intf = 2 then
    let slot := { slot with alt2 := alt }
    queueEp0 calls [] 0 (if alt ≠ 0 then (slot.enableIsoIn calls).1 else slot.disableIsoIn)
  else if intf ≠ 0 ∧ intf ≠ 3 then
    { slot := slot, ret := einval, data := [] }
  else
    queueEp0 calls [] 0 slot

def getInterface (calls : Calls) (wIndex wLength : UInt16) (slot : Slot) : Reply :=
  let alt := if wIndex.toUInt8 = 1 then slot.alt1 else if wIndex.toUInt8 = 2 then slot.alt2 else 0
  queueEp0 calls [alt] wLength slot

-- The requests about the settings. `other` is the answer to the rest: descriptors, reports,
-- volume and mute, all of which leave the settings and the endpoints as they are.
def ds5Setup (calls : Calls) (other : Slot → CtrlRequest → Int × List UInt8)
    (ctrl : CtrlRequest) (slot : Slot) : Reply :=
  let dirIn := ctrl.bRequestType &&& 0x80 ≠ 0
  if ctrl.bRequest = 0x09 ∧ ctrl.bRequestType = 0 then
    setConfiguration calls ctrl.wValue slot
  else if ctrl.bRequest = 0x08 ∧ dirIn then
    queueEp0 calls [slot.config] ctrl.wLength slot
  else if ctrl.bRequest = 0x0B ∧ ctrl.bRequestType = 1 then
    setInterface calls ctrl.wValue ctrl.wIndex slot
  else if ctrl.bRequest = 0x0A ∧ dirIn then
    getInterface calls ctrl.wIndex ctrl.wLength slot
  else
    let answer := other slot ctrl
    { slot := slot, ret := answer.1, data := answer.2 }

-- The reset handler is the disconnect handler.
def ds5Disconnect (slot : Slot) : Slot :=
  let slot := slot.disableIsoOut.disableIsoIn.disableHid
  { slot with config := 0, alt1 := 0, alt2 := 0 }

end LibVirtualGamepad.Ds5Interfaces
