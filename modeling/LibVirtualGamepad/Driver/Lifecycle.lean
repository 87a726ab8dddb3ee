import LibVirtualGamepad.Driver.World

-- The lifecycle of a controller slot and of the device: the VHF target, create and
-- destroy, and the power transitions.
namespace LibVirtualGamepad

def TargetAct.exec (d : Device) (regs : Registers) (choice : Choice) : TargetAct → Effect
  | .check =>
    if d.vhfFileHandle.isSome then
      d.effect (regs.fail .success) []
    else if d.stopping || !d.localVhfTarget then
      d.effect (regs.fail .deviceNotReady) []
    else
      d.effect regs [.target .openByFile]
  | .openByFile =>
    if !choice.status.ok then
      d.effect (regs.fail choice.status) []
    else
      match choice.fileHandle with
      | none => d.effect (regs.fail .deviceNotReady) []
      | some file => d.effect regs [.target (.store file)]
  | .store file =>
    { d with vhfFileHandle := some file, vhfTargetOpen := true }.effect (regs.fail .success) []

namespace Device

def resetSlot (d : Device) (id : ControllerId) : Device :=
  d.setSlot id (d.controllers id).reset

-- Only before a handle exists or after its deletion has returned.
def releaseStartingSlot (d : Device) (id : ControllerId) (owner : File) : Device :=
  let control := (d.controllers id).control
  if control.isOwnedBy owner && (control.state == .starting || control.state == .stopping) then
    d.resetSlot id
  else
    d

-- An owner may create a lost controller again in place.
def available (d : Device) (id : ControllerId) (owner : File) : Bool :=
  let control := (d.controllers id).control
  control.state == .empty || (control.state == .lost && control.isOwnedBy owner)

-- What is refused before a slot is taken, none when nothing is.
def createRefusal (d : Device) (id : ControllerId) (owner : File) : Option NtStatus :=
  if d.stopping then some .deviceNotReady
  else if !d.powered then some .devicePoweredOff
  else if !d.available id owner then some .deviceBusy
  else none

def beginSlot (d : Device) (id : ControllerId) (owner : File) (profile : Profile) : Device :=
  let control := (d.controllers id).reset.control
  d.setSlot id
    { control := { control with owner := some owner, state := .starting }
      data := .created (UInt32.ofNat id) profile }

-- VhfCreate's child, not started yet.
def addChild (d : Device) (place : Place) (context : Option Nat) : Device :=
  { d with children := d.children ++
      [{ place := place
         context := context
         started := false
         deleteCalls := 0
         deleteReturns := 0 }] }

def startChild (d : Device) (handle : Handle) : Device :=
  d.setChild handle fun child => { child with started := true }

def clearFeedbackPending (d : Device) (id : ControllerId) : Device :=
  let slot := d.controllers id
  d.setSlot id { slot with
    data := { slot.data with feedback := { slot.data.feedback with feedbackPending := false } } }

def discardFeedback (d : Device) (id : ControllerId) : Device :=
  let slot := d.controllers id
  d.setSlot id { slot with data := { slot.data with feedback := slot.data.feedback.discard } }

end Device

def targetOpen : List Act := [.target .check]

-- The child is deleted once no submission is inside VHF any more.
def deleteAfterSubmits (id : ControllerId) (handle : Handle) : List Act :=
  [.waitForSubmits id, .deleteBegin handle, .deleteEnd handle]

def CreateAct.exec (d : Device) (regs : Registers) (choice : Choice) (id : ControllerId)
    (owner : File) (profile : Profile) : CreateAct → Effect
  | .check =>
    match d.createRefusal id owner with
    | some status => d.effect (regs.fail status) []
    | none =>
      d.effect regs [.create id owner profile (.enumerate (d.controllers id).control.generation)]
  -- The old instance is looked for without a lock.
  | .enumerate generation =>
    d.effect regs
      [.lockLifetime, .create id owner profile (.begin generation choice.childPresent),
        .unlockLifetime]
  | .begin generation childPresent =>
    match d.createRefusal id owner with
    | some status => d.effect (regs.fail status) []
    | none =>
      if (d.controllers id).control.generation != generation || childPresent then
        d.effect (regs.fail .deviceBusy) []
      else
        (d.beginSlot id owner profile).effect regs
          (targetOpen ++ [.create id owner profile .targetOpened])
  | .targetOpened =>
    if regs.status.ok then
      d.effect regs [.create id owner profile .readFile]
    else
      d.effect regs [.create id owner profile .release]
  | .readFile =>
    if d.vhfFileHandle.isSome then
      d.effect regs [.create id owner profile .vhfCreate]
    else
      d.effect (regs.fail .deviceNotReady) [.create id owner profile .release]
  | .vhfCreate =>
    if choice.status.ok then
      (d.addChild (.controller id) none).effect regs
        [.create id owner profile (.publish d.children.length)]
    else
      d.effect (regs.fail choice.status) [.create id owner profile .release]
  | .publish handle =>
    let control := (d.controllers id).control
    (d.setControl id { control with vhf := some handle }).effect regs
      [.create id owner profile (.start handle)]
  -- Callbacks may come from here on, before VhfStart has returned.
  | .start handle =>
    (d.startChild handle).effect regs [.create id owner profile (.adopt handle)]
  | .adopt handle =>
    let control := (d.controllers id).control
    if choice.status.ok && !d.stopping && d.powered && control.isOwnedBy owner &&
        control.state == .starting then
      (d.setControl id { control with state := .active }).effect (regs.fail .success) []
    else
      ((d.setControl id { control with state := .stopping, vhf := none }).clearFeedbackPending
        id).effect
        (regs.fail (if choice.status.ok then .cancelled else choice.status))
        [.deleteBegin handle, .deleteEnd handle, .create id owner profile .release]
  | .release => (d.releaseStartingSlot id owner).effect regs []

def DestroyAct.exec (d : Device) (regs : Registers) (id : ControllerId) (owner : File) :
    DestroyAct → Effect
  | .check =>
    let control := (d.controllers id).control
    if control.state == .empty then
      d.effect (regs.fail .notFound) []
    else if !control.isOwnedBy owner then
      d.effect (regs.fail .accessDenied) []
    else
      d.effect (regs.fail .success) [.lockLifetime, .destroy id owner .detach, .unlockLifetime]
  | .detach =>
    let control := (d.controllers id).control
    if !control.isOwnedBy owner || control.state == .empty then
      d.effect regs []
    else if control.state == .starting then
      -- The creator deletes what it has not handed over when it sees this.
      (d.setControl id { control with state := .stopping }).effect regs []
    else if control.state == .lost then
      (d.resetSlot id).effect regs []
    else
      ((d.setControl id { control with state := .stopping, vhf := none }).discardFeedback
        id).effect regs
        ((match control.vhf with
          | some handle => deleteAfterSubmits id handle
          | none => []) ++ [.destroy id owner .finish])
  | .finish =>
    let control := (d.controllers id).control
    if control.isOwnedBy owner && control.state == .stopping then
      (d.resetSlot id).effect regs []
    else
      d.effect regs []

-- Under the gate, one after the other with the keyboard and mouse between them.
def deleteStoppedKeyboardMouse (retainLostOwner : Bool) : List Act :=
  [.keyboardMouse .drain, .keyboardMouse (.detach retainLostOwner)]

def stopKeepalive : List Act :=
  [.keepalive .signalStop, .keepalive .join, .keepalive .cancel]

namespace Slot

-- A stop takes every slot that is in use; the ones that were lost are let go.
def stopped (slot : Slot) : Slot :=
  let data := { slot.data with feedback := slot.data.feedback.discard }
  match slot.control.state with
  | .active | .starting => { control := { slot.control with state := .stopping }, data := data }
  | .lost => { slot with data := data }.reset
  | .empty | .stopping => { slot with data := data }

def collected (slot : Slot) : Option Handle :=
  if slot.control.state == .stopping then slot.control.vhf else none

def detached (slot : Slot) : Slot :=
  if slot.control.state == .stopping then
    { slot with control := { slot.control with vhf := none } }
  else
    slot

-- A power-down takes the active ones.
def poweredDown (slot : Slot) : Option Handle :=
  if slot.control.state == .active then slot.control.vhf else none

-- The three passes of a power-down over the slots it has taken.
def takenDown (slot : Slot) (taken : Bool) : Slot :=
  if taken then
    { control := { slot.control with state := .stopping }
      data := { slot.data with feedback := { slot.data.feedback with feedbackPending := false } } }
  else
    slot

def unpublished (slot : Slot) (taken : Bool) : Slot :=
  if taken then { slot with control := { slot.control with vhf := none } } else slot

-- The slot keeps its owner and its profile.
def lostAfterDelete (slot : Slot) (taken : Bool) : Slot :=
  if taken && slot.control.state == .stopping then
    let reset := slot.reset
    { control := { reset.control with owner := slot.control.owner, state := .lost }
      data := { reset.data with selectedProfile := slot.data.selectedProfile } }
  else
    slot

end Slot

-- One deletion after the other, in the order of the slots.
def deleteCollected (handles : ControllerId → Option Handle)
    (after : ControllerId → List Act) : List Act :=
  (List.finRange maxControllers).flatMap fun id =>
    match handles id with
    | some handle => deleteAfterSubmits id handle ++ after id
    | none => []

namespace KeyboardMouseSlot

-- The generation never is zero.
def nextGeneration (generation : UInt64) : UInt64 :=
  if generation + 1 = 0 then 1 else generation + 1

end KeyboardMouseSlot

namespace Device

def retireContext (d : Device) (context : Option Nat) : Device :=
  match context with
  | some context =>
    { d with contexts := d.contexts.modify context fun c => { c with retired := true } }
  | none => d

-- The activation is retired before its admission closes.
def stopKeyboardMouseAdmission (d : Device) : Device :=
  let slot := d.keyboardMouse
  let slot := { slot with generation := KeyboardMouseSlot.nextGeneration slot.generation }
  if slot.state = .empty then
    d.setKeyboardMouse slot
  else
    (d.retireContext slot.callbackContext).setKeyboardMouse
      { slot with rundownStopping := true, state := .stopping }

def stopTimer (d : Device) : Device :=
  { d with keepalive := { d.keepalive with running := false } }

def mapSlots (d : Device) (f : ControllerId → Slot → Slot) : Device :=
  { d with controllers := fun id => f id (d.controllers id) }

end Device

def PowerAct.exec (d : Device) (regs : Registers) : PowerAct → Effect
  | .stopIntent => { d with stopping := true, powered := false }.effect regs []
  | .stopMark forgetTarget =>
    (d.stopTimer.stopKeyboardMouseAdmission.mapSlots fun _ slot => slot.stopped).effect regs
      (deleteStoppedKeyboardMouse false ++ [.power (.stopCollect forgetTarget)])
  | .stopCollect forgetTarget =>
    let d' := { d with
      vhfFileHandle := none
      localVhfTarget := d.localVhfTarget && !forgetTarget
      vhfTargetOpen := d.vhfTargetOpen && !forgetTarget }
    (d'.mapSlots fun _ slot => slot.detached).effect regs
      (deleteCollected (fun id => (d.controllers id).collected)
        (fun id => [.power (.stopRelease id)]) ++ stopKeepalive)
  | .stopRelease id => (d.resetSlot id).effect regs []
  | .downIntent => { d with powered := false }.effect regs []
  | .downMark =>
    let handles (id : ControllerId) := (d.controllers id).poweredDown
    (d.stopTimer.stopKeyboardMouseAdmission.mapSlots fun id slot =>
      slot.takenDown (handles id).isSome).effect regs
      (deleteStoppedKeyboardMouse true ++ [Act.power (.downDetach handles)] ++ stopKeepalive ++
        deleteCollected handles (fun _ => []) ++ [Act.power (.downFinish handles)])
  | .downDetach handles =>
    (d.mapSlots fun id slot => slot.unpublished (handles id).isSome).effect regs []
  | .downFinish handles =>
    (d.mapSlots fun id slot => slot.lostAfterDelete (handles id).isSome).effect regs []
  | .prepare => { d with stopping := false }.effect regs targetOpen
  | .d0Entry => { d with powered := true }.effect (regs.fail .success) []
  -- The target is closed with the gate held and the state lock released.
  | .releaseTarget => { d with vhfTargetOpen := false }.effect (regs.fail .success) []

end LibVirtualGamepad
