import LibVirtualGamepad.Cursor

namespace LibVirtualGamepad

def maxReportBytes : Nat := 64
def transitionCapacity : Nat := 16
def priorityCapacity : Nat := 4

-- A stored report. The source keeps a 64-byte array and a length; every reader
-- stops at the length, so only the valid bytes are kept here.
structure ReportBuffer where
  data : List UInt8
  reportId : UInt8
  length_le : data.length ≤ maxReportBytes
  deriving DecidableEq

namespace ReportBuffer

def zero : ReportBuffer := ⟨[], 0, Nat.zero_le _⟩

def store (data : List UInt8) (reportId : UInt8) : ReportBuffer :=
  ⟨data.take maxReportBytes, reportId, List.length_take_le _ _⟩

-- Overwrite one byte in place, as the sequence stamp does.
def setByte (report : ReportBuffer) (i : Nat) (value : UInt8) : ReportBuffer :=
  ⟨report.data.set i value, report.reportId, by simpa using report.length_le⟩

end ReportBuffer

inductive ReportKind where
  | continuous
  | transition
  | priority
  | aside
  deriving DecidableEq

structure ReportPump where
  ready : Bool
  inFlight : ReportBuffer
  priority : List ReportBuffer
  transitions : Vector ReportBuffer transitionCapacity
  -- Parallel to `transitions`: whether the entry is an aside.
  transitionAside : Vector Bool transitionCapacity
  transitionCursor : Cursor transitionCapacity
  latest : ReportBuffer
  haveLatest : Bool
  dropped : UInt32
  haveSignature : Bool
  lastButtons : UInt32
  lastLeftTrigger : Bool
  lastRightTrigger : Bool

namespace ReportPump

def emptyCursor : Cursor transitionCapacity where
  head := ⟨0, by decide⟩
  count := 0
  count_le := Nat.zero_le _

-- The all-zero memory a controller slot starts from.
def zero : ReportPump where
  ready := false
  inFlight := .zero
  priority := []
  transitions := Vector.replicate _ .zero
  transitionAside := Vector.replicate _ false
  transitionCursor := emptyCursor
  latest := .zero
  haveLatest := false
  dropped := 0
  haveSignature := false
  lastButtons := 0
  lastLeftTrigger := false
  lastRightTrigger := false

-- Stored bytes survive a reset; only the bookkeeping is cleared.
def reset (pump : ReportPump) : ReportPump :=
  { pump with
    ready := false
    priority := []
    transitionCursor := emptyCursor
    transitionAside := Vector.replicate _ false
    haveLatest := false
    dropped := 0
    haveSignature := false
    lastButtons := 0
    lastLeftTrigger := false
    lastRightTrigger := false }

def classify (pump : ReportPump) (buttons : UInt32) (leftTrigger rightTrigger : UInt8) :
    ReportKind × ReportPump :=
  let leftPressed := decide (leftTrigger > 0)
  let rightPressed := decide (rightTrigger > 0)
  let discreteChange := !pump.haveSignature || buttons != pump.lastButtons ||
    leftPressed != pump.lastLeftTrigger || rightPressed != pump.lastRightTrigger
  (if discreteChange then .transition else .continuous,
    { pump with
      haveSignature := true
      lastButtons := buttons
      lastLeftTrigger := leftPressed
      lastRightTrigger := rightPressed })

-- The oldest ring entry gives way. Only a transition counts as dropped.
def dropOldest (pump : ReportPump) : ReportPump :=
  let victimWasAside := pump.transitionCursor.read pump.transitionAside 0
  { pump with
    transitionCursor := pump.transitionCursor.pop
    dropped := if victimWasAside then pump.dropped else pump.dropped + 1 }

def append (pump : ReportPump) (report : ReportBuffer) (isAside : Bool) : ReportPump :=
  let tail := pump.transitionCursor.count
  { pump with
    transitions := pump.transitionCursor.write pump.transitions tail report
    transitionAside := pump.transitionCursor.write pump.transitionAside tail isAside
    transitionCursor := pump.transitionCursor.push }

-- `data` is the caller's pointer and length: none for a null pointer. The result
-- is false when this call discarded a queued report or its own.
def enqueue (pump : ReportPump) (data : Option (List UInt8)) (reportId : UInt8)
    (kind : ReportKind) : Bool × ReportPump :=
  match data with
  | none | some [] => (true, pump)
  | some bytes =>
    let report := ReportBuffer.store bytes reportId
    match kind with
    | .priority =>
      if priorityCapacity ≤ pump.priority.length then
        (false, pump)
      else
        (true, { pump with priority := pump.priority ++ [report] })
    | .transition | .aside =>
      let isAside := kind == .aside
      -- A transition supersedes the waiting snapshot, an aside does not.
      let pump := if isAside then pump else { pump with haveLatest := false }
      if pump.transitionCursor.full then
        if isAside then
          (false, pump)
        else
          (false, pump.dropOldest.append report isAside)
      else
        (true, pump.append report isAside)
    | .continuous => (true, { pump with latest := report, haveLatest := true })

def setReady (pump : ReportPump) : ReportPump := { pump with ready := true }

-- Priority replies overtake the ring, the ring overtakes the snapshot. The
-- taken report stays in `inFlight` until the next take.
def take (pump : ReportPump) : Option ReportBuffer × ReportPump :=
  if !pump.ready then
    (none, pump)
  else
    match pump.priority with
    | report :: rest =>
      (some report, { pump with inFlight := report, priority := rest, ready := false })
    | [] =>
      if 0 < pump.transitionCursor.count then
        let report := pump.transitionCursor.read pump.transitions 0
        (some report,
          { pump with
            inFlight := report
            transitionCursor := pump.transitionCursor.pop
            ready := false })
      else if pump.haveLatest then
        (some pump.latest,
          { pump with inFlight := pump.latest, haveLatest := false, ready := false })
      else
        (none, pump)

def empty (pump : ReportPump) : Bool :=
  pump.priority.isEmpty && pump.transitionCursor.count == 0 && !pump.haveLatest

-- The ring, oldest entry first, each with its aside flag.
def waiting (pump : ReportPump) : List (ReportBuffer × Bool) :=
  (pump.transitionCursor.view pump.transitions).zip
    (pump.transitionCursor.view pump.transitionAside)

end ReportPump

end LibVirtualGamepad
