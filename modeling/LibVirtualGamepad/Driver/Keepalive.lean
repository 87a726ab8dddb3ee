import LibVirtualGamepad.Driver.Lifecycle

-- The sections of one slot as acts, and the Steam Controller keep-alive: arming,
-- the worker, its start and its stop.
namespace LibVirtualGamepad

def tickUs : UInt64 := 4000

namespace Device

-- The microseconds until a slot's next report is due, none for a slot that the
-- keep-alive passes over.
def remainingUs (d : Device) (now : UInt64) (id : ControllerId) : Option UInt64 :=
  let slot := d.controllers id
  if slot.control.state == .active && slot.data.selectedProfile.isSteamController &&
      slot.control.vhf.isSome && slot.data.haveLastInput then
    let last := slot.data.sc26.lastReportUs
    let elapsed := if now ≥ last then now - last else 0
    some (if elapsed ≥ tickUs then 1 else tickUs - elapsed)
  else
    none

def earliestUs (d : Device) (now : UInt64) : UInt64 :=
  ((List.finRange maxControllers).filterMap (d.remainingUs now)).foldl min tickUs

def setTimer (d : Device) (delay : UInt64) : Device :=
  { d with keepalive := { d.keepalive with due := some delay, signalled := false } }

-- Setting a waitable timer takes its signal back.
def arm (d : Device) (now : UInt64) : Device :=
  if !d.keepalive.timer || !d.keepalive.running then
    d
  else
    { d with keepalive := { d.keepalive with parked := false } }.setTimer (d.earliestUs now)

def cancelTimer (d : Device) : Device :=
  { d with keepalive := { d.keepalive with due := none } }

def setRunning (d : Device) (running : Bool) : Device :=
  { d with keepalive := { d.keepalive with running := running } }

-- What a section leaves in its slot. A report that was taken counts as in flight.
def applySection (d : Device) (id : ControllerId) (r : StepResult) : Device :=
  let control := (d.controllers id).control
  d.setSlot id
    { control := if r.submit then { control with submitsInFlight := control.submitsInFlight + 1 }
        else control
      data := r.data }

-- The call, with the handle that the section read.
def submission (d : Device) (id : ControllerId) (answers : Bool) : List Act :=
  match (d.controllers id).control.vhf with
  | some handle => [.submitEnter id handle answers]
  | none => []

end Device

def startKeepalive : List Act :=
  [.keepalive .join, .keepalive .publishStart, .keepalive .resetStop, .keepalive .armFirst]

def SlotStep.exec (d : Device) (regs : Registers) (choice : Choice) (id : ControllerId)
    (step : SlotStep) : Effect :=
  let r := step.run (d.sectionOf id choice.now) (d.controllers id).data
  let d' := d.applySection id r
  let d' := if r.startKeepalive then d'.setRunning true else d'
  let d' := if r.rearm then d'.arm choice.now else d'
  d'.effect
    { status := r.status.getD regs.status
      output := r.output.getD regs.output }
    ((if r.startKeepalive then startKeepalive else []) ++
      (if r.submit then d.submission id r.status.isSome else []) ++ r.next.map (.slot id))

namespace Device

def keepaliveResult (d : Device) (now : UInt64) (id : ControllerId) : StepResult :=
  (d.sectionOf id now).keepalive (d.controllers id).data

-- One pass over the slots under one hold of the lock.
def keepaliveSlots (d : Device) (now : UInt64) : Device :=
  d.mapSlots fun id slot =>
    let r := d.keepaliveResult now id
    { control := if r.submit then
        { slot.control with submitsInFlight := slot.control.submitsInFlight + 1 }
        else slot.control
      data := r.data }

def keepaliveActive (d : Device) (now : UInt64) (id : ControllerId) : Bool :=
  (d.sectionOf id now).keepaliveActive (d.controllers id).data

def anyActive (d : Device) (now : UInt64) : Bool :=
  (List.finRange maxControllers).any (d.keepaliveActive now)

def anyReady (d : Device) (now : UInt64) : Bool :=
  (List.finRange maxControllers).any fun id =>
    d.keepaliveActive now id && (d.controllers id).data.pump.ready

-- A worker without a controller ends; one without a reader leaves the timer alone.
def keepaliveTick (d : Device) (now : UInt64) : Device :=
  let d' := d.keepaliveSlots now
  if !d.anyActive now then d'.setRunning false
  else if d.anyReady now then d'.arm now
  else { d' with keepalive := { d'.keepalive with parked := true } }

end Device

-- Waiting for a thread's end.
def finished (threads : List Task) (thread : Nat) : Bool :=
  match threads[thread]? with
  | some task => task.todo.isEmpty
  | none => true

def KeepaliveAct.exec (threads : List Task) (d : Device) (regs : Registers) (choice : Choice) :
    KeepaliveAct → Option Effect
  | .join =>
    match d.keepalive.thread with
    | none => some (d.effect regs [])
    | some thread =>
      if finished threads thread then
        some ({ d with keepalive := { d.keepalive with thread := none } }.effect regs [])
      else
        none
  | .publishStart =>
    some ({ d with keepalive := { d.keepalive with running := true, parked := false } }.effect
      regs [])
  | .resetStop => some ({ d with keepalive := { d.keepalive with stop := false } }.effect regs [])
  | .armFirst =>
    if choice.status.ok then
      some ((d.setTimer tickUs).effect regs [.keepalive .createWorker])
    else
      some (d.effect regs [.keepalive .startFailed])
  | .createWorker =>
    if choice.status.ok then
      some
        { shared := { d with keepalive := { d.keepalive with thread := some threads.length } }
          regs := regs
          next := []
          spawn := [⟨.keepaliveWorker, .initial, [.keepalive .wait]⟩] }
    else
      some (d.effect regs [.keepalive .cancel, .keepalive .startFailed])
  | .startFailed => some ((d.setRunning false).effect regs [])
  | .signalStop => some ({ d with keepalive := { d.keepalive with stop := true } }.effect regs [])
  | .cancel => some (d.cancelTimer.effect regs [])
  -- The stop event comes first; a failed wait ends the worker as well.
  | .wait =>
    if d.keepalive.stop || !choice.status.ok then
      some (d.effect regs [.keepalive .cancel, .keepalive .workerExit])
    else if d.keepalive.signalled then
      some ({ d with keepalive := { d.keepalive with signalled := false } }.effect regs
        [.keepalive .tick])
    else
      none
  | .tick =>
    some ((d.keepaliveTick choice.now).effect regs
      ((List.finRange maxControllers).flatMap (fun id =>
        if (d.keepaliveResult choice.now id).submit then d.submission id false else []) ++
        (if d.anyActive choice.now then [.keepalive .wait]
          else [.keepalive .cancel, .keepalive .workerExit])))
  | .workerExit => some ((d.setRunning false).effect regs [])

end LibVirtualGamepad
