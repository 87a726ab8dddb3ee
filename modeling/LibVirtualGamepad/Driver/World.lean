import LibVirtualGamepad.Driver.Section
import LibVirtualGamepad.Interleaving
import LibVirtualGamepad.KeyboardMouse.Endpoint

-- The device context with the VHF children beside it, and the acts of the threads
-- that run over them. An act is one critical section under the state lock, one wait,
-- or one call out of the driver.
namespace LibVirtualGamepad

inductive Place where
  | controller (id : ControllerId)
  | keyboardMouse
  deriving DecidableEq

-- A child as VHF sees it: `context` is the keyboard and mouse activation it was
-- created for, the counts are those of VhfDelete's calls and returns.
structure Child where
  place : Place
  context : Option Nat
  started : Bool
  deleteCalls : Nat
  deleteReturns : Nat
  deriving DecidableEq

-- What readiness callbacks of one keyboard and mouse activation hold on to.
structure CallbackContext where
  generation : UInt64
  retired : Bool
  activeEntries : Nat
  freed : Bool
  deriving DecidableEq

structure KeyboardMouseSlot where
  vhf : Option Handle
  callbackContext : Option Nat
  generation : UInt64
  owner : Option File
  state : SlotState
  core : KeyboardMouse.Endpoint
  submitOwners : Nat
  pumpActive : Bool
  rundownStopping : Bool

def KeyboardMouseSlot.zero : KeyboardMouseSlot where
  vhf := none
  callbackContext := none
  generation := 0
  owner := none
  state := .empty
  core := .reset
  submitOwners := 0
  pumpActive := false
  rundownStopping := false

-- The keep-alive's waitable timer with its delay while armed, the stop event and
-- the worker's thread.
structure Keepalive where
  timer : Bool
  due : Option UInt64
  signalled : Bool
  stop : Bool
  thread : Option Nat
  running : Bool
  parked : Bool
  deriving DecidableEq

-- A handle is the child's place in `children`, an activation its place in
-- `contexts`.
structure Device where
  gateHeld : Bool
  stopping : Bool
  powered : Bool
  localVhfTarget : Bool
  vhfTargetOpen : Bool
  vhfFileHandle : Option Nat
  keepalive : Keepalive
  controllers : ControllerId → Slot
  keyboardMouse : KeyboardMouseSlot
  contexts : List CallbackContext
  cleanupStarted : File → Bool
  children : List Child

inductive KeyboardMouseRequest where
  | query
  | openSource
  | close
  | abort
  | submit (request : KeyboardMouse.Request)

-- The requests of the two control interfaces, their buffers read.
inductive Request where
  | query (controllerId : Option UInt32)
  | create (request : CreateControllerRequest)
  | destroy (controllerId : UInt32)
  | input (request : InputStateRequest)
  | touch (request : TouchStateRequest)
  | motion (request : MotionStateRequest)
  | battery (request : BatteryStateRequest)
  | attributes (request : SteamControllerAttributesRequest)
  | poll (controllerId : UInt32)
  | keyboardMouse (request : KeyboardMouseRequest)

inductive Callback where
  | ready
  | write (transfer : Transfer)
  | getFeature (transfer : Transfer)
  | setFeature (transfer : Transfer)
  | getInputReport (transfer : Transfer)

-- What runs as a thread of its own: a request of the sequential queue, a callback of
-- the framework or of VHF, the keep-alive worker.
inductive Operation where
  | request (owner : Option File) (request : Request)
  | fileCleanup (owner : File)
  | fileClose (owner : File)
  | callback (controller : ControllerId) (handle : Handle) (callback : Callback)
  | keyboardMouseReady (handle : Handle) (context : Nat)
  | keepaliveWorker
  | d0Entry
  | d0Exit
  | prepareHardware
  | releaseHardware
  | targetCleanup

inductive TargetAct where
  | check
  | openByFile
  | store (file : Nat)

inductive CreateAct where
  | check
  | enumerate (generation : UInt64)
  | begin (generation : UInt64) (childPresent : Bool)
  | targetOpened
  | readFile
  | vhfCreate
  | publish (handle : Handle)
  | start (handle : Handle)
  | adopt (handle : Handle)
  | release

inductive DestroyAct where
  | check
  | detach
  | finish

-- `handles` are the children a power transition has taken over.
inductive PowerAct where
  | stopIntent
  | stopMark (forgetTarget : Bool)
  | stopCollect (forgetTarget : Bool)
  | stopRelease (id : ControllerId)
  | downIntent
  | downMark
  | downDetach (handles : ControllerId → Option Handle)
  | downFinish (handles : ControllerId → Option Handle)
  | prepare
  | d0Entry
  | releaseTarget

inductive KeepaliveAct where
  | join
  | publishStart
  | resetStop
  | armFirst
  | createWorker
  | startFailed
  | signalStop
  | cancel
  | wait
  | tick
  | workerExit

inductive KeyboardMouseAct where
  | authorize (owner : File) (request : KeyboardMouseRequest)
  | query (owner : File)
  | openCheck (owner : File)
  | openEnumerate (owner : File) (generation : UInt64)
  | openBegin (owner : File) (generation : UInt64) (childPresent : Bool)
  | targetOpened (owner : File)
  | readTarget (owner : File)
  | allocate (owner : File)
  | vhfCreate (owner : File) (context : Nat)
  | publish (owner : File) (context : Nat) (handle : Handle)
  | start (owner : File) (context : Nat) (handle : Handle)
  | adopt (owner : File) (context : Nat)
  | reset
  | drain
  | detach (retainLostOwner : Bool)
  | drainEntries (context : Nat)
  | release (lostOwner : Option File) (context : Option Nat)
  | submit (owner : File) (request : KeyboardMouse.Request)
  | submitAnswer
  | close (owner : File)
  | closeAnswer
  | abort (owner : File)
  | cleanupIntent (owner : File)
  | cleanupStop (owner : File)
  | readyEnter (context : Nat)
  | readyCheck (context : Nat)
  | readyGrant (context : Nat)
  | readyExit (context : Nat)
  | pumpEnter (context : Option Nat)
  | pumpTake (context : Option Nat)
  | submitEnter (handle : Handle) (context : Option Nat)
  | submitLeave (handle : Handle) (context : Option Nat)

inductive Act where
  | lockLifetime
  | unlockLifetime
  | reply (status : NtStatus) (output : Output)
  | slot (id : ControllerId) (step : SlotStep)
  -- VhfReadReportSubmit is called; it has returned, and its status may be answered.
  | submitEnter (id : ControllerId) (handle : Handle) (answers : Bool)
  | submitLeave (id : ControllerId) (handle : Handle) (answers : Bool)
  | waitForSubmits (id : ControllerId)
  -- VhfDelete is called and returns.
  | deleteBegin (handle : Handle)
  | deleteEnd (handle : Handle)
  | target (act : TargetAct)
  | create (id : ControllerId) (owner : File) (profile : Profile) (act : CreateAct)
  | destroy (id : ControllerId) (owner : File) (act : DestroyAct)
  | power (act : PowerAct)
  | keepalive (act : KeepaliveAct)
  | keyboardMouse (act : KeyboardMouseAct)

-- What a thread keeps of its own: the status and the output it will answer.
structure Registers where
  status : NtStatus
  output : Output

def Registers.initial : Registers := ⟨.invalidDeviceRequest, .none⟩

def Registers.fail (regs : Registers) (status : NtStatus) : Registers :=
  { regs with status := status }

-- What the outside decides during an act: the clock, what a call out of the driver
-- returns, whether an old instance is still enumerated, and who the caller is.
structure Choice where
  now : UInt64
  status : NtStatus
  childPresent : Bool
  fileHandle : Option Nat
  authorized : Bool

abbrev Task := Interleaving.Thread Operation Registers Act
abbrev Effect := Interleaving.Outcome Device Operation Registers Act

-- The usual effect: no thread is started.
def Device.effect (d : Device) (regs : Registers) (next : List Act) : Effect :=
  ⟨d, regs, next, []⟩

namespace Device

def setSlot (d : Device) (id : ControllerId) (slot : Slot) : Device :=
  { d with controllers := Function.update d.controllers id slot }

def setControl (d : Device) (id : ControllerId) (control : SlotControl) : Device :=
  d.setSlot id { d.controllers id with control := control }

def setKeyboardMouse (d : Device) (slot : KeyboardMouseSlot) : Device :=
  { d with keyboardMouse := slot }

def setChild (d : Device) (handle : Handle) (f : Child → Child) : Device :=
  { d with children := d.children.modify handle f }

def flags (d : Device) : DeviceFlags where
  stopping := d.stopping
  powered := d.powered
  keepaliveTimer := d.keepalive.timer
  timerRunning := d.keepalive.running
  timerParked := d.keepalive.parked

-- What a critical section on one slot sees.
def sectionOf (d : Device) (id : ControllerId) (now : UInt64) : Section where
  flags := d.flags
  control := (d.controllers id).control
  controllerId := UInt32.ofNat id
  now := now

-- The state of the place, whoever stands there.
def stateAt (d : Device) : Place → SlotState
  | .controller id => (d.controllers id).control.state
  | .keyboardMouse => d.keyboardMouse.state

def vhfAt (d : Device) : Place → Option Handle
  | .controller id => (d.controllers id).control.vhf
  | .keyboardMouse => d.keyboardMouse.vhf

end Device

end LibVirtualGamepad
