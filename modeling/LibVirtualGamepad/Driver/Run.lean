import LibVirtualGamepad.Driver.Keepalive
import LibVirtualGamepad.Driver.KeyboardMouse

-- The running driver: what each thread does, when one may start, and the device
-- before its first.
namespace LibVirtualGamepad

def ControllerId.ofRequest (id : UInt32) : Option ControllerId :=
  if h : id.toNat < maxControllers then some ⟨id.toNat, h⟩ else none

-- A request that names no slot is refused, by most before the gate is taken.
def withSlot (id : UInt32) (program : ControllerId → List Act) : List Act :=
  match ControllerId.ofRequest id with
  | some id => program id
  | none => [.reply .invalidParameter .none]

def gated (acts : List Act) : List Act := [.lockLifetime] ++ acts ++ [.unlockLifetime]

def stateUpdate (owner : File) (id : UInt32) (update : StateUpdate) : List Act :=
  gated (withSlot id fun id => [.slot id (.beginUpdate owner update)])

def Request.program (owner : File) : Request → List Act
  | .query none => [.reply .success (.info fillQueryInfo)]
  | .query (some id) => withSlot id fun id => [.slot id (.query owner)]
  | .create request =>
    withSlot request.controllerId fun id =>
      if request.reserved ≠ 0 then
        [.reply .invalidParameter .none]
      else
        match findProfile request.requestedProfile with
        | none => [.reply .notSupported .none]
        | some _ => [.create id owner request.requestedProfile .check]
  | .destroy id => withSlot id fun id => [.destroy id owner .check]
  | .input request =>
    withSlot request.controllerId fun id =>
      if request.reserved ≠ 0 then [.reply .invalidParameter .none]
      else gated [.slot id (.input owner request)]
  | .touch request =>
    if request.reserved ≠ 0 then [.reply .invalidParameter .none]
    else stateUpdate owner request.controllerId (.touch request)
  | .motion request =>
    if request.reserved0 ≠ (0, 0, 0) then [.reply .invalidParameter .none]
    else stateUpdate owner request.controllerId (.motion request)
  | .battery request =>
    if request.reserved ≠ 0 then [.reply .invalidParameter .none]
    else stateUpdate owner request.controllerId (.battery request)
  | .attributes request =>
    withSlot request.controllerId fun id => [.slot id (.attributes owner request)]
  | .poll id => withSlot id fun id => [.slot id (.poll owner)]
  | .keyboardMouse request => [.keyboardMouse (.authorize owner request)]

def Callback.step : Callback → SlotStep
  | .ready => .ready
  | .write transfer => .write transfer
  | .getFeature transfer => .getFeature transfer
  | .setFeature transfer => .setFeature transfer
  | .getInputReport transfer => .getInputReport transfer

def keyboardMouseFileCleanup (owner : File) : List Act :=
  .keyboardMouse (.cleanupIntent owner) :: gated [.keyboardMouse (.cleanupStop owner)]

def stopOwnedControllers (forgetTarget : Bool) : List Act :=
  .power .stopIntent :: gated [.power (.stopMark forgetTarget)]

def powerDownControllers : List Act := .power .downIntent :: gated [.power .downMark]

def closeTarget : List Act := gated [.power .releaseTarget]

def Operation.program : Operation → List Act
  | .request none _ => [.reply .invalidHandle .none]
  | .request (some owner) asked => asked.program owner
  | .fileCleanup owner => keyboardMouseFileCleanup owner
  -- The keyboard and mouse goes first, then each controller of the file.
  | .fileClose owner =>
    keyboardMouseFileCleanup owner ++
      (List.finRange maxControllers).flatMap fun id => gated [.destroy id owner .detach]
  | .callback id _ asked => [.slot id asked.step]
  | .keyboardMouseReady _ context => [.keyboardMouse (.readyEnter context)]
  | .keepaliveWorker => [.keepalive .wait]
  | .d0Entry => gated [.power .d0Entry]
  | .d0Exit => powerDownControllers ++ [.reply .success .none]
  | .prepareHardware => gated [.power .prepare] ++ [.reply .success .none]
  | .releaseHardware => stopOwnedControllers false ++ closeTarget
  | .targetCleanup => stopOwnedControllers true

def Operation.start (operation : Operation) : Task := ⟨operation, .initial, operation.program⟩

def Operation.isRequest : Operation → Bool
  | .request _ _ => true
  | _ => false

def Operation.isCallbackOf (handle : Handle) : Operation → Bool
  | .callback _ h _ => h == handle
  | _ => false

def Act.entersReadiness : Act → Bool
  | .keyboardMouse (.readyEnter _) => true
  | _ => false

-- A readiness callback of the keyboard and mouse that is called and has not entered.
def entering (threads : List Task) (handle : Handle) : Bool :=
  threads.any fun task =>
    match task.kind with
    | .keyboardMouseReady h _ => h == handle && task.todo.any Act.entersReadiness
    | _ => false

-- The threads of the kind that have not returned.
def unfinished (threads : List Task) (kind : Operation → Bool) : Bool :=
  threads.any fun task => kind task.kind && !task.todo.isEmpty

-- One act. None while it has to wait: for the gate, for the submissions of a slot, or
-- in VhfDelete for the callbacks of the handle. Of the readiness callbacks of the
-- keyboard and mouse VhfDelete waits for those that could still enter.
def Act.exec (threads : List Task) (d : Device) (_ : Operation) (regs : Registers)
    (choice : Choice) : Act → Option Effect
  | .lockLifetime => if d.gateHeld then none else some ({ d with gateHeld := true }.effect regs [])
  | .unlockLifetime => some ({ d with gateHeld := false }.effect regs [])
  | .reply status output => some (d.effect ⟨status, output⟩ [])
  | .slot id step => some (step.exec d regs choice id)
  | .submitEnter id handle answers => some (d.effect regs [.submitLeave id handle answers])
  | .submitLeave id _ answers =>
    let control := (d.controllers id).control
    some ((d.setControl id { control with submitsInFlight := control.submitsInFlight - 1 }).effect
      (if answers then regs.fail choice.status else regs) [])
  | .waitForSubmits id =>
    if (d.controllers id).control.submitsInFlight = 0 then some (d.effect regs []) else none
  | .deleteBegin handle =>
    some ((d.setChild handle fun child =>
      { child with deleteCalls := child.deleteCalls + 1 }).effect regs [])
  | .deleteEnd handle =>
    if unfinished threads (Operation.isCallbackOf handle) || entering threads handle then
      none
    else
      some ((d.setChild handle fun child =>
        { child with deleteReturns := child.deleteReturns + 1 }).effect regs [])
  | .target act => some (act.exec d regs choice)
  | .create id owner profile act => some (act.exec d regs choice id owner profile)
  | .destroy id owner act => some (act.exec d regs id owner)
  | .power act => some (act.exec d regs)
  | .keepalive act => act.exec threads d regs choice
  | .keyboardMouse act => act.exec d regs choice

inductive Stimulus where
  | start (operation : Operation)
  | timerFires

-- A child that VHF may call back for.
def Device.callable (d : Device) (handle : Handle) (place : Place) (context : Option Nat) : Bool :=
  match d.children[handle]? with
  | some child =>
    child.place == place && child.context == context && child.started && child.deleteReturns == 0
  | none => false

-- The queue hands out one request at a time, VHF calls back for a started child
-- until its deletion has returned, and only the driver starts the worker.
def Device.mayStart (d : Device) (threads : List Task) : Operation → Bool
  | .request _ _ => !unfinished threads Operation.isRequest
  | .callback id handle _ => d.callable handle (.controller id) none
  | .keyboardMouseReady handle context => d.callable handle .keyboardMouse (some context)
  | .keepaliveWorker => false
  | _ => true

def Stimulus.run (threads : List Task) (d : Device) : Stimulus → Option (Device × List Task)
  | .start operation => if d.mayStart threads operation then some (d, [operation.start]) else none
  | .timerFires =>
    if d.keepalive.due.isSome then
      some ({ d with keepalive := { d.keepalive with due := none, signalled := true } }, [])
    else
      none

abbrev World := Interleaving.World Device Operation Registers Act

def driver : Interleaving.System Device Operation Registers Act Choice Stimulus where
  exec := fun threads d operation regs choice act => act.exec threads d operation regs choice
  environment := fun threads d stimulus => stimulus.run threads d

namespace Device

-- As evt_device_add leaves it: out of D0, the target not open, and the keep-alive
-- there if its timer and its event could be created.
def added (keepalive : Bool) : Device where
  gateHeld := false
  stopping := false
  powered := false
  localVhfTarget := true
  vhfTargetOpen := false
  vhfFileHandle := none
  keepalive :=
    { timer := keepalive
      due := none
      signalled := false
      stop := false
      thread := none
      running := false
      parked := false }
  controllers := fun _ =>
    { control := { generation := 0, vhf := none, owner := none, state := .empty, submitsInFlight := 0 }
      data := .zero }
  keyboardMouse := .zero
  contexts := []
  cleanupStarted := fun _ => false
  children := []

end Device

def World.initial (keepalive : Bool) : World := ⟨.added keepalive, []⟩

-- What is outside the driver lets everything succeed.
def Choice.willing : Choice where
  now := 0
  status := .success
  childPresent := false
  fileHandle := some 0
  authorized := true

-- A thread's next acts, none of them refused.
def willingly (thread acts : Nat) : List (Interleaving.Event Choice Stimulus) :=
  List.replicate acts (.act thread .willing)

-- The device enters D0 and a file creates a controller.
def creation (request : CreateControllerRequest) (owner : File) :
    List (Interleaving.Event Choice Stimulus) :=
  .env (.start .d0Entry) :: willingly 0 3 ++
    .env (.start (.request (some owner) (.create request))) :: willingly 1 14

end LibVirtualGamepad
