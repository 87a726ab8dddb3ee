import LibVirtualGamepad.Cursor
import LibVirtualGamepad.Protocol

namespace LibVirtualGamepad

-- A key of report family and actuator mask; zero for a report that stops nothing.
def steamHapticStopKey (report : Vector UInt8 steamHapticReportBytes) (length : UInt8) : Nat :=
  if 10 ≤ length ∧ report[0] = 0x80 ∧ report[4] = 0 ∧ report[5] = 0 ∧ report[7] = 0 ∧
      report[8] = 0 then
    (0x80 <<< 2) ||| 3
  else if length < 2 ∨ report[1] > 2 then
    0
  else if (8 ≤ length ∧ report[0] = 0x81 ∧
        ((report[2] = 0 ∧ report[3] = 0) ∨ (report[6] = 0 ∧ report[7] = 0))) ∨
      (4 ≤ length ∧ report[0] = 0x82 ∧ report[2] = 0) then
    (report[0].toNat <<< 2) ||| (if report[1] = 2 then 3 else 1 <<< report[1].toNat)
  else
    0

def hapticStopKey (event : FeedbackEvent) : Nat :=
  if event.type ≠ .steamHaptic ∨ event.payloadSize ≠ SteamHapticFeedback.size then
    0
  else
    let haptic := SteamHapticFeedback.ofPayload event.payload
    steamHapticStopKey haptic.report haptic.length

-- A bounded ring of feedback events and its counter of events given up.
structure FeedbackRing (capacity : Nat) where
  queue : Vector FeedbackEvent capacity
  cursor : Cursor capacity
  evicted : UInt32

namespace FeedbackRing

variable {capacity : Nat}

-- The first waiting entry, counted from the oldest, with a property.
def find (ring : FeedbackRing capacity) (p : FeedbackEvent → Bool) : Option Nat :=
  (List.range ring.cursor.count).find? fun i => p (ring.cursor.read ring.queue i)

-- Close the gap of entry `victim`.
def remove (ring : FeedbackRing capacity) (victim : Nat) : FeedbackRing capacity where
  queue := ring.cursor.shift ring.queue victim (ring.cursor.count - 1 - victim)
  cursor := ring.cursor.shrink
  evicted := ring.evicted

def store (ring : FeedbackRing capacity) (event : FeedbackEvent) : FeedbackRing capacity where
  queue := ring.cursor.write ring.queue ring.cursor.count event
  cursor := ring.cursor.push
  evicted := ring.evicted

-- A stop replaces a waiting stop of its key; a full ring gives up its oldest
-- event that is no stop. The result is false when there is none to give up.
def enqueueHaptic (ring : FeedbackRing capacity) (event : FeedbackEvent) :
    Bool × FeedbackRing capacity :=
  let stop := hapticStopKey event
  match if stop = 0 then none else ring.find fun other => hapticStopKey other == stop with
  | some victim => (true, (ring.remove victim).store event)
  | none =>
    if ring.cursor.full then
      match ring.find fun other => hapticStopKey other == 0 with
      | some victim =>
        (true, ({ ring with evicted := ring.evicted + 1 }.remove victim).store event)
      | none => (false, ring)
    else
      (true, ring.store event)

-- A full ring of settings gives up its oldest event, whatever it is.
def enqueueSettings (ring : FeedbackRing capacity) (event : FeedbackEvent) :
    FeedbackRing capacity :=
  let ring :=
    if ring.cursor.full then
      { ring with cursor := ring.cursor.pop, evicted := ring.evicted + 1 }
    else
      ring
  ring.store event

-- Take the event at the head, as a feedback poll does.
def poll (ring : FeedbackRing capacity) : Option (FeedbackEvent × FeedbackRing capacity) :=
  if ring.cursor.count = 0 then
    none
  else
    some (ring.cursor.read ring.queue 0, { ring with cursor := ring.cursor.pop })

-- The waiting events, oldest first.
def pending (ring : FeedbackRing capacity) : List FeedbackEvent :=
  ring.cursor.view ring.queue

-- A ring without events, its head and its cells left as they were.
def emptyAt (queue : Vector FeedbackEvent capacity) (head : Fin capacity) (evicted : UInt32) :
    FeedbackRing capacity where
  queue := queue
  cursor := { head := head, count := 0, count_le := Nat.zero_le _ }
  evicted := evicted

-- The motor an event drives: the report's id and side, or the id alone for 0x80.
def actuator (event : FeedbackEvent) : Option (UInt8 × UInt8) :=
  if event.type ≠ .steamHaptic ∨ event.payloadSize ≠ SteamHapticFeedback.size then
    none
  else
    let report := (SteamHapticFeedback.ofPayload event.payload).report
    some (report[0], if report[0] = 0x80 then 0 else report[1])

end FeedbackRing

end LibVirtualGamepad
