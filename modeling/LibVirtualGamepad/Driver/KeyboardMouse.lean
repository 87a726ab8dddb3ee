import LibVirtualGamepad.Driver.Lifecycle

-- The keyboard and mouse source on the device: its lifecycle, its requests and its
-- readiness callbacks.
namespace LibVirtualGamepad

open KeyboardMouse (Endpoint)

namespace KeyboardMouse

def primaryCapabilities : UInt32 := 0x3F

def Result.toStatus : Result → NtStatus
  | .accepted | .unchanged => .success
  | .invalid => .invalidParameter
  | .notOwner => .accessDenied
  | .notReady => .deviceNotReady
  | .busy => .deviceBusy
  | .unsupported => .notSupported

end KeyboardMouse

namespace KeyboardMouseSlot

def reset (slot : KeyboardMouseSlot) : KeyboardMouseSlot :=
  { zero with generation := slot.generation }

def available (slot : KeyboardMouseSlot) (owner : File) : Bool :=
  slot.state == .empty || (slot.state == .lost && slot.owner == some owner)

-- Nothing is kept of the activation but, after a power loss, who had it.
def released (slot : KeyboardMouseSlot) (lostOwner : Option File) (cleanup : File → Bool) :
    KeyboardMouseSlot :=
  match lostOwner with
  | some owner =>
    if cleanup owner then slot.reset else { slot.reset with owner := some owner, state := .lost }
  | none => slot.reset

end KeyboardMouseSlot

namespace Device

-- The device runs and the file is not being cleaned up.
def keyboardMouseLive (d : Device) (owner : File) : Bool :=
  !d.stopping && d.powered && !d.cleanupStarted owner

def contextRetired (d : Device) (context : Nat) : Bool :=
  match d.contexts[context]? with
  | some c => c.retired
  | none => true

-- A callback speaks for the activation it was registered with.
def callbackIsCurrent (d : Device) (context : Nat) : Bool :=
  d.keyboardMouse.callbackContext == some context &&
    (d.contexts[context]?.map CallbackContext.generation) == some d.keyboardMouse.generation &&
    !d.contextRetired context

def pumpAdmitted (d : Device) (context : Option Nat) : Bool :=
  let slot := d.keyboardMouse
  !slot.rundownStopping && !d.stopping && d.powered && slot.vhf.isSome &&
    (context.all d.callbackIsCurrent) && (slot.state == .starting || slot.state == .active) &&
    !(slot.owner.any d.cleanupStarted)

def mapContext (d : Device) (context : Nat) (f : CallbackContext → CallbackContext) : Device :=
  { d with contexts := d.contexts.modify context f }

def addContext (d : Device) : Device :=
  { d with contexts := d.contexts ++
      [{ generation := d.keyboardMouse.generation
         retired := false
         activeEntries := 0
         freed := false }] }

def freeContext (d : Device) (context : Option Nat) : Device :=
  match context with
  | some context => d.mapContext context fun c => { c with freed := true }
  | none => d

def beginKeyboardMouse (d : Device) (owner : File) (core : Endpoint) : Device :=
  let slot := d.keyboardMouse
  d.setKeyboardMouse
    { slot with
      rundownStopping := false
      submitOwners := 0
      pumpActive := false
      generation := KeyboardMouseSlot.nextGeneration slot.generation
      callbackContext := none
      vhf := none
      owner := some owner
      state := .starting
      core := core }

-- The submission is over, whatever became of it.
def dropSubmitOwner (d : Device) : Device :=
  d.setKeyboardMouse { d.keyboardMouse with submitOwners := d.keyboardMouse.submitOwners - 1 }

def clearPumpActive (d : Device) : Device :=
  d.setKeyboardMouse { d.keyboardMouse with pumpActive := false }

def setCore (d : Device) (core : Endpoint) : Device :=
  d.setKeyboardMouse { d.keyboardMouse with core := core }

end Device

-- What a request does once its caller has been authorized.
def KeyboardMouseRequest.program (owner : File) : KeyboardMouseRequest → List Act
  | .query => [.keyboardMouse (.query owner)]
  | .openSource => [.keyboardMouse (.openCheck owner)]
  | .close => [.lockLifetime, .keyboardMouse (.close owner)]
  | .abort => [.lockLifetime, .keyboardMouse (.abort owner), .unlockLifetime]
  | .submit request => [.lockLifetime, .keyboardMouse (.submit owner request)]

def KeyboardMouseAct.exec (d : Device) (regs : Registers) (choice : Choice) :
    KeyboardMouseAct → Option Effect
  | .authorize owner request =>
    if choice.authorized then
      some (d.effect regs (request.program owner))
    else
      some (d.effect (regs.fail .accessDenied) [])
  | .query owner =>
    if d.keyboardMouseLive owner then
      some (d.effect ⟨.success, .keyboardMouseInfo KeyboardMouse.primaryCapabilities
        (UInt32.ofNat KeyboardMouse.queueCapacity) KeyboardMouse.primaryAbsoluteGeneration⟩ [])
    else
      some (d.effect (regs.fail .deviceNotReady) [])
  | .openCheck owner =>
    if !d.keyboardMouseLive owner then
      some (d.effect (regs.fail .deviceNotReady) [])
    else if !d.keyboardMouse.available owner then
      some (d.effect (regs.fail .deviceBusy) [])
    else
      some (d.effect regs [.keyboardMouse (.openEnumerate owner d.keyboardMouse.generation)])
  | .openEnumerate owner generation =>
    some (d.effect regs
      [.lockLifetime, .keyboardMouse (.openBegin owner generation choice.childPresent),
        .unlockLifetime])
  | .openBegin owner generation childPresent =>
    if !d.keyboardMouseLive owner then
      some (d.effect (regs.fail .deviceNotReady) [])
    else if d.keyboardMouse.generation != generation || childPresent ||
        !d.keyboardMouse.available owner then
      some (d.effect (regs.fail .deviceBusy) [])
    else
      let (result, core) :=
        d.keyboardMouse.core.openBy (some owner) KeyboardMouse.primaryAbsoluteGeneration
      let d := d.beginKeyboardMouse owner core
      if result.toStatus.ok then
        some (d.effect regs (targetOpen ++ [.keyboardMouse (.targetOpened owner)]))
      else
        some (d.effect (regs.fail result.toStatus) [.keyboardMouse .reset])
  | .targetOpened owner =>
    if regs.status.ok then
      some (d.effect regs [.keyboardMouse (.readTarget owner)])
    else
      some (d.effect regs [.keyboardMouse .reset])
  | .readTarget owner =>
    if d.vhfFileHandle.isSome && d.localVhfTarget then
      some (d.effect regs [.keyboardMouse (.allocate owner)])
    else
      some (d.effect (regs.fail .deviceNotReady) [.keyboardMouse .reset])
  | .allocate owner =>
    if choice.status.ok then
      some (d.addContext.effect regs [.keyboardMouse (.vhfCreate owner d.contexts.length)])
    else
      some (d.effect (regs.fail .insufficientResources) [.keyboardMouse .reset])
  | .vhfCreate owner context =>
    if choice.status.ok then
      some ((d.addChild .keyboardMouse (some context)).effect regs
        [.keyboardMouse (.publish owner context d.children.length)])
    else
      some ((d.freeContext (some context)).effect (regs.fail choice.status)
        [.keyboardMouse .reset])
  | .publish owner context handle =>
    let d := d.setKeyboardMouse
      { d.keyboardMouse with callbackContext := some context, vhf := some handle }
    if d.keyboardMouseLive owner then
      some (d.effect regs [.keyboardMouse (.start owner context handle)])
    else
      some (d.stopKeyboardMouseAdmission.effect (regs.fail .cancelled)
        (deleteStoppedKeyboardMouse false))
  -- Readiness may come from here on, before VhfStart has returned.
  | .start owner context handle =>
    some ((d.startChild handle).effect regs [.keyboardMouse (.adopt owner context)])
  | .adopt owner context =>
    let slot := d.keyboardMouse
    if choice.status.ok && d.keyboardMouseLive owner && slot.callbackContext == some context &&
        slot.owner == some owner && slot.state == .starting && slot.core.state == .active then
      some ((d.setKeyboardMouse { slot with state := .active }).effect (regs.fail .success) [])
    else
      some (d.stopKeyboardMouseAdmission.effect
        (regs.fail (if choice.status.ok then .cancelled else choice.status))
        (deleteStoppedKeyboardMouse false))
  | .reset => some ((d.setKeyboardMouse d.keyboardMouse.reset).effect regs [])
  -- Until no pump runs and no submission is inside VHF.
  | .drain =>
    if d.keyboardMouse.pumpActive || d.keyboardMouse.submitOwners != 0 then none
    else some (d.effect regs [])
  | .detach retainLostOwner =>
    let slot := d.keyboardMouse
    if slot.state = .stopping then
      some ((d.setKeyboardMouse
        { slot with vhf := none, core := slot.core.submissionFailed }).effect regs
        ((match slot.vhf with
          | some handle => [.deleteBegin handle, .deleteEnd handle]
          | none => []) ++
          (match slot.callbackContext with
          | some context => [.keyboardMouse (.drainEntries context)]
          | none => []) ++
          [.keyboardMouse (.release (if retainLostOwner then slot.owner else none)
            slot.callbackContext)]))
    else
      some (d.effect regs [.keyboardMouse (.release none none)])
  | .drainEntries context =>
    match d.contexts[context]? with
    | some c => if c.activeEntries = 0 then some (d.effect regs []) else none
    | none => some (d.effect regs [])
  | .release lostOwner context =>
    let slot := d.keyboardMouse
    let d := if slot.state == .stopping && slot.vhf.isNone then
      d.setKeyboardMouse (slot.released lostOwner d.cleanupStarted) else d
    some ((d.freeContext context).effect regs [])
  -- The event is queued under the gate, the pump runs without it.
  | .submit owner request =>
    let slot := d.keyboardMouse
    if slot.owner ≠ some owner then
      some (d.effect (regs.fail .accessDenied) [.unlockLifetime, .keyboardMouse .submitAnswer])
    else if slot.state = .lost then
      some (d.effect (regs.fail .deviceRemoved) [.unlockLifetime, .keyboardMouse .submitAnswer])
    else if !d.keyboardMouseLive owner || slot.state != .active then
      some (d.effect (regs.fail .deviceNotReady) [.unlockLifetime, .keyboardMouse .submitAnswer])
    else
      let (result, core) := slot.core.submit (some owner) request
      some ((d.setCore core).effect (regs.fail result.toStatus)
        (.unlockLifetime :: (if result.toStatus.ok then [.keyboardMouse (.pumpEnter none)] else [])
          ++ [.keyboardMouse .submitAnswer]))
  | .submitAnswer =>
    if regs.status.ok then
      some (d.effect ⟨.success, .acceptance false⟩ [])
    else if regs.status = .deviceBusy then
      some (d.effect ⟨.success, .acceptance true⟩ [])
    else
      some (d.effect regs [])
  | .close owner =>
    let slot := d.keyboardMouse
    if slot.owner ≠ some owner then
      some (d.effect (regs.fail .accessDenied) [.unlockLifetime])
    else if slot.state = .lost then
      some (d.effect (regs.fail .deviceRemoved) [.unlockLifetime])
    else if !d.keyboardMouseLive owner || slot.state != .active then
      some (d.effect (regs.fail .deviceNotReady) [.unlockLifetime])
    else if slot.core.state = .faulted ∨ slot.core.state = .drained then
      some (d.stopKeyboardMouseAdmission.effect
        -- A forced removal acknowledges no neutral drain.
        (regs.fail (if slot.core.state = .drained then .success else .deviceNotReady))
        (deleteStoppedKeyboardMouse false ++ [.unlockLifetime]))
    else
      let (result, core) := slot.core.close (some owner)
      some ((d.setCore core).effect (regs.fail result.toStatus)
        (.unlockLifetime :: (if result.toStatus.ok then
          [.keyboardMouse (.pumpEnter none), .keyboardMouse .closeAnswer] else [])))
  -- The client asks again until the neutral reports have gone out.
  | .closeAnswer =>
    some (d.effect (if regs.status.ok then regs.fail .deviceBusy else regs) [])
  | .abort owner =>
    let slot := d.keyboardMouse
    if slot.state = .empty then
      some (d.effect (regs.fail .success) [])
    else if slot.owner ≠ some owner then
      some (d.effect (regs.fail .accessDenied) [])
    else
      some (d.stopKeyboardMouseAdmission.effect (regs.fail .success)
        (deleteStoppedKeyboardMouse false))
  | .cleanupIntent owner =>
    some ({ d with cleanupStarted := Function.update d.cleanupStarted owner true }.effect regs [])
  | .cleanupStop owner =>
    if d.keyboardMouse.owner = some owner then
      let d := d.stopKeyboardMouseAdmission
      some (d.effect regs
        (if d.keyboardMouse.state = .stopping then deleteStoppedKeyboardMouse false else []))
    else
      some (d.effect regs [])
  | .readyEnter context =>
    some ((d.mapContext context fun c => { c with activeEntries := c.activeEntries + 1 }).effect regs
      [.keyboardMouse (.readyCheck context)])
  | .readyCheck context =>
    if d.contextRetired context then
      some (d.effect regs [.keyboardMouse (.readyExit context)])
    else
      some (d.effect regs [.keyboardMouse (.readyGrant context)])
  | .readyGrant context =>
    if d.pumpAdmitted (some context) && d.keyboardMouse.owner.isSome then
      some ((d.setCore d.keyboardMouse.core.readyForReport).effect regs
        [.keyboardMouse (.pumpEnter (some context)), .keyboardMouse (.readyExit context)])
    else
      some (d.effect regs [.keyboardMouse (.readyExit context)])
  | .readyExit context =>
    some ((d.mapContext context fun c => { c with activeEntries := c.activeEntries - 1 }).effect regs
      [])
  -- One pump at a time: whoever finds one running leaves its report to it.
  | .pumpEnter context =>
    if !d.pumpAdmitted context || d.keyboardMouse.pumpActive then
      some (d.effect (regs.fail .success) [])
    else
      some ((d.setKeyboardMouse { d.keyboardMouse with pumpActive := true }).effect regs
        [.keyboardMouse (.pumpTake context)])
  -- The pump is disarmed in the section that finds no report.
  | .pumpTake context =>
    match if d.pumpAdmitted context then d.keyboardMouse.core.takeReport
      else (none, d.keyboardMouse.core) with
    | (some _, core) =>
      some (((d.setCore core).setKeyboardMouse
        { (d.setCore core).keyboardMouse with
          submitOwners := d.keyboardMouse.submitOwners + 1 }).effect regs
        (match d.keyboardMouse.vhf with
        | some handle => [.keyboardMouse (.submitEnter handle context)]
        | none => []))
    | (none, core) => some ((d.setCore core).clearPumpActive.effect (regs.fail .success) [])
  | .submitEnter handle context =>
    some (d.effect regs [.keyboardMouse (.submitLeave handle context)])
  -- A retired callback returns its reservation without touching the core.
  | .submitLeave _ context =>
    if context.any d.contextRetired then
      some (d.dropSubmitOwner.clearPumpActive.effect
        (regs.fail (if choice.status.ok then .success else .deviceNotReady)) [])
    else if choice.status.ok then
      some (d.dropSubmitOwner.effect regs [.keyboardMouse (.pumpTake context)])
    else
      some ((d.setCore d.keyboardMouse.core.submissionFailed).dropSubmitOwner.clearPumpActive.effect
        (regs.fail .deviceNotReady) [])

end LibVirtualGamepad
