import LibVirtualGamepad.Driver.PidOutput
import LibVirtualGamepad.Driver.Run
import LibVirtualGamepad.Interleaving.Run

-- The clock of the force feedback: one periodic timer for the playing effects of all
-- slots, beside the driver whose slots it serves.
namespace LibVirtualGamepad

open Interleaving

-- The callbacks with which the device leaves D0 or stops.
def Operation.endsPower : Operation → Bool
  | .d0Exit | .releaseHardware | .targetCleanup => true
  | _ => false

-- An operation's acts where the profiles are others than the ones that are built in.
def Operation.programWith (profiles : Profile → Option ProfileDefinition) :
    Operation → List Act
  | .request (some owner) (.create asked) =>
    withSlot asked.controllerId fun id =>
      if asked.reserved ≠ 0 then
        [.reply .invalidParameter .none]
      else
        match profiles asked.requestedProfile with
        | none => [.reply .notSupported .none]
        | some _ => [.create id owner asked.requestedProfile .check]
  | operation => operation.program

-- The driver with these profiles, in a device that stays in D0 once it is there.
def driverWith (profiles : Profile → Option ProfileDefinition) :
    System Device Operation Registers Act Choice Stimulus where
  exec := driver.exec
  environment := fun threads d stimulus =>
    match stimulus with
    | .start operation =>
      if d.mayStart threads operation && !operation.endsPower then
        some (d, [⟨operation, .initial, operation.programWith profiles⟩])
      else
        none
    | .timerFires => Stimulus.timerFires.run threads d

-- The act that an event performs, none for one from outside.
def World.actOf (world : World) : Event Choice Stimulus → Option (Choice × Act)
  | .act i choice => (world.threads[i]?.bind fun t => t.todo.head?).map fun a => (choice, a)
  | .env _ => none

-- A creator takes its slot over.
def Device.adopts (d : Device) (choice : Choice) (id : ControllerId) (owner : File) : Bool :=
  choice.status.ok && !d.stopping && d.powered && (d.controllers id).control.isOwnedBy owner &&
    (d.controllers id).control.state == .starting

-- The slot that an event makes active.
def World.adopted (world : World) (event : Event Choice Stimulus) : Option ControllerId :=
  match world.actOf event with
  | some (choice, .create id owner _ (.adopt _)) =>
    if world.shared.adopts choice id owner then some id else none
  | _ => none

-- The families whose output reports are looked at before force feedback is.
def Profile.hasOwnOutput (profile : Profile) : Bool :=
  profile.isSteamController || profile == .switchPro || profile.isPlaystation || profile.isXbox

-- A write callback has to arm the timer once it has left the lock. The timer's own
-- callback looks at the slots, and stops the timer and looks again.
inductive PidAct where
  | arm
  | pass
  | stop (stopping : Bool)
  | recheck
  | restart
  deriving DecidableEq

inductive PidOperation where
  | write (id : ControllerId)
  | tick

inductive PidStimulus where
  | driver (event : Event Choice Stimulus)
  | timerFires

namespace PidClock

-- `timer` tells whether the timer could be created, `armed` whether it will fire.
structure State where
  world : LibVirtualGamepad.World
  forceFeedback : ControllerId → Bool
  pids : ControllerId → SlotPid
  timer : Bool
  armed : Bool

abbrev World := Interleaving.World State PidOperation Unit PidAct

abbrev Task := Interleaving.Thread PidOperation Unit PidAct

abbrev Effect := Interleaving.Outcome State PidOperation Unit PidAct

namespace State

variable (s : State)

def control (id : ControllerId) : SlotControl := (s.world.shared.controllers id).control

def data (id : ControllerId) : SlotData := (s.world.shared.controllers id).data

def sectionOf (id : ControllerId) : Section := s.world.shared.sectionOf id 0

-- A slot that was reset has a fresh engine, and force feedback if it is there for a
-- profile that declares it.
def follow (profiles : Profile → Option ProfileDefinition) (world : LibVirtualGamepad.World) :
    State :=
  let slot (id : ControllerId) := world.shared.controllers id
  let renewed (id : ControllerId) := (slot id).control.generation ≠ (s.control id).generation
  { s with
    world := world
    forceFeedback := fun id =>
      if renewed id then
        (slot id).control.state == .starting &&
          (profiles (slot id).data.selectedProfile).any ProfileDefinition.forceFeedback
      else s.forceFeedback id
    pids := fun id => if renewed id then .created else s.pids id }

-- One slot's force feedback after a step, and what it has put among the slot's data.
def setSlot (id : ControllerId) (after : SlotPid × SlotData) : State :=
  { s with
    world := { s.world with
      shared := s.world.shared.setSlot id
        { s.world.shared.controllers id with data := after.2 } }
    pids := Function.update s.pids id after.1 }

-- The section of a write callback, and whether the timer is to be armed after it.
def write (id : ControllerId) (transfer : Transfer) : State × List Task :=
  let (status, pid, data) := (s.pids id).write (s.sectionOf id) transfer (s.data id)
  (s.setSlot id (pid, data),
    if status.ok && pid.engine.needsTick && s.timer then [⟨.write id, (), [.arm]⟩] else [])

def setFeature (id : ControllerId) (transfer : Transfer) : State :=
  s.setSlot id (((s.pids id).setFeature (s.sectionOf id) transfer).2, s.data id)

-- What a callback's section does to the force feedback of its slot.
def callback (id : ControllerId) : SlotStep → State × List Task
  | .write transfer =>
    if s.forceFeedback id && !(s.data id).selectedProfile.hasOwnOutput &&
        transfer.reportId != Generic.outputReportId then
      s.write id transfer
    else
      (s, [])
  | .setFeature transfer =>
    if s.forceFeedback id && !(s.data id).selectedProfile.isSteamController &&
        !(s.data id).selectedProfile.isPlaystation && transfer.reportId == 0x1B then
      (s.setFeature id transfer, [])
    else
      (s, [])
  | _ => (s, [])

def afterAct : Option (Choice × Act) → State × List Task
  | some (_, .slot id step) => s.callback id step
  | _ => (s, [])

-- The timer looks at the active slots with force feedback and at no others.
def served (id : ControllerId) : Bool :=
  (s.control id).state == .active && s.forceFeedback id

def plays (id : ControllerId) : Bool := s.served id && (s.pids id).engine.needsTick

def stillPlaying : Bool := (List.finRange maxControllers).any s.plays

-- All slots tick under one lock.
def tick : State :=
  let after (id : ControllerId) :=
    if s.forceFeedback id then (s.pids id).tick (s.sectionOf id) (s.data id)
    else (s.pids id, s.data id)
  { s with
    world := { s.world with
      shared := s.world.shared.mapSlots fun id slot => { slot with data := (after id).2 } }
    pids := fun id => (after id).1 }

def effect (next : List PidAct) : Effect := ⟨s, (), next, []⟩

end State

def exec (s : State) : PidAct → Effect
  | .arm => { s with armed := true }.effect []
  | .pass =>
    let stopping := s.world.shared.stopping
    s.tick.effect (if !s.tick.stillPlaying || stopping then [.stop stopping] else [])
  | .stop stopping => { s with armed := false }.effect (if stopping then [] else [.recheck])
  | .recheck => s.effect (if s.stillPlaying then [.restart] else [])
  | .restart => { s with armed := true }.effect []

-- The timer may fire again while an earlier callback of it still runs.
def environment (profiles : Profile → Option ProfileDefinition) (s : State) :
    PidStimulus → Option (State × List Task)
  | .driver event =>
    ((driverWith profiles).step s.world event).map fun world =>
      (s.follow profiles world).afterAct (s.world.actOf event)
  | .timerFires => if s.armed then some (s, [⟨.tick, (), [.pass]⟩]) else none

def State.initial (keepalive timer : Bool) : State where
  world := World.initial keepalive
  forceFeedback := fun _ => false
  pids := fun _ => .created
  timer := timer
  armed := false

def World.initial (keepalive timer : Bool) : World := ⟨.initial keepalive timer, []⟩

end PidClock

def pidClock (profiles : Profile → Option ProfileDefinition) :
    System PidClock.State PidOperation Unit PidAct Unit PidStimulus where
  exec := fun _ s _ _ _ act => some (PidClock.exec s act)
  environment := fun _ s stimulus => PidClock.environment profiles s stimulus

namespace PidClock

-- The timer must run where it serves a playing effect.
def State.ClockRuns (s : State) : Prop :=
  s.timer = true → (∃ id, s.plays id = true) → s.armed = true

-- No write callback and no callback of the timer is under way.
def Idle (w : World) : Prop := ∀ t ∈ w.threads, t.todo = []

-- The acts after which the timer is armed if it must run.
def rearms : PidAct → Bool
  | .arm | .recheck | .restart => true
  | .stop stopping => !stopping
  | .pass => false

-- The timer is armed, or someone is going to arm it or to look again.
def Covered (w : World) : Prop :=
  w.shared.armed = true ∨ Waiting w.threads fun _ a => rearms a = true

-- A finite effect of an active slot, on a device that is not paused, comes to its end
-- with nothing but the timer's callbacks going on.
def EndsAlone (profiles : Profile → Option ProfileDefinition) (w : World) : Prop :=
  ∀ (id : ControllerId) (i : Fin pidMaxEffects), w.shared.served id = true →
    (w.shared.pids id).engine.paused = false →
    ((w.shared.pids id).engine.block i).allocated = true →
    ((w.shared.pids id).engine.block i).playing = true →
    ((w.shared.pids id).engine.block i).durationMs ≠ 0 →
    ((w.shared.pids id).engine.block i).loopCount ≠ 0xFF →
      ∃ events w', (∀ event ∈ events, ∀ e, event ≠ .env (.driver e)) ∧
        (pidClock profiles).runAll w events = some w' ∧
          ((w'.shared.pids id).engine.block i).playing = false

-- A slot that plays already is adopted only while the timer is covered.
def AdoptsCovered (w : World) (event : Event Unit PidStimulus) : Prop :=
  ∀ e id, event = .env (.driver e) → w.shared.world.adopted e = some id →
    w.shared.timer = true → w.shared.forceFeedback id = true →
      (w.shared.pids id).engine.needsTick = true → Covered w

end PidClock

end LibVirtualGamepad
