import LibVirtualGamepad.Cursor.Lemmas
import LibVirtualGamepad.KeyboardMouse.Delivery

-- The endpoint as it lies in memory: its reports in the cells of a ring. Whoever calls it
-- cannot tell the ring from the line of reports.
namespace LibVirtualGamepad.KeyboardMouse

open Endpoint (keyBit consumerBit press)

-- The largest report is the keyboard's.
abbrev reportBytes : Nat := 30

-- A report in its cell: the buffer, how much of it is in use, and the id that VHF is told.
structure Cell where
  bytes : Vector UInt8 reportBytes
  length : UInt8
  id : UInt8

namespace Cell

def zero : Cell := ⟨Vector.replicate _ 0, 0, 0⟩

-- A zeroed cell with the id and what follows it written from the front.
def fill (id : UInt8) (payload : List UInt8) : Cell where
  bytes := Vector.ofFn fun i => (id :: payload).getD i 0
  length := UInt8.ofNat (payload.length + 1)
  id := id

-- What VHF reads of the cell.
def report (cell : Cell) : Report := ⟨cell.bytes.toList.take cell.length.toNat⟩

end Cell

structure RingEndpoint where
  owner : OwnerToken
  state : Lifecycle
  absoluteGeneration : UInt32
  keys : Vector UInt8 keyboardBytes
  buttons : UInt8
  consumerButtons : UInt8
  queue : Vector Cell queueCapacity
  cursor : Cursor queueCapacity
  retained : Cell
  credit : Bool

namespace RingEndpoint

def emptyCursor : Cursor queueCapacity where
  head := ⟨0, Nat.succ_pos _⟩
  count := 0
  count_le := Nat.zero_le _

def initial : RingEndpoint where
  owner := none
  state := .closed
  absoluteGeneration := 0
  keys := Vector.replicate _ 0
  buttons := 0
  consumerButtons := 0
  queue := Vector.replicate _ .zero
  cursor := emptyCursor
  retained := .zero
  credit := false

-- The cells keep what was last written to them.
def resetAfterDeviceDeleted (ring : RingEndpoint) : RingEndpoint :=
  { ring with
    owner := none
    state := .closed
    absoluteGeneration := 0
    keys := Vector.replicate _ 0
    buttons := 0
    consumerButtons := 0
    cursor := emptyCursor
    retained := .zero
    credit := false }

def admission (ring : RingEndpoint) (owner : OwnerToken) : Result :=
  if ring.state ≠ .active then .notReady
  else if owner = none ∨ owner ≠ ring.owner then .notOwner
  else .accepted

def openBy (ring : RingEndpoint) (owner : OwnerToken) (generation : UInt32) :
    Result × RingEndpoint :=
  if owner = none then
    (.invalid, ring)
  else if ring.state ≠ .closed then
    (.busy, ring)
  else
    (.accepted, { ring.resetAfterDeviceDeleted with
      owner := owner, absoluteGeneration := generation, state := .active })

-- Callers make sure of a free cell.
def enqueue (ring : RingEndpoint) (cell : Cell) : RingEndpoint :=
  { ring with
    queue := ring.cursor.write ring.queue ring.cursor.count cell
    cursor := ring.cursor.push }

def keyboardReport (ring : RingEndpoint) : Cell := .fill keyboardReportId ring.keys.toList

def consumerReport (ring : RingEndpoint) : Cell := .fill consumerReportId [ring.consumerButtons]

def relativeReport (ring : RingEndpoint) (x y : Int16) (wheel pan : Int8) : Cell :=
  .fill relativeReportId
    ([ring.buttons] ++ Sc26Usb.leInt16 x ++ Sc26Usb.leInt16 y ++ [wheel.toUInt8, pan.toUInt8])

-- The byte behind the id is padding.
def absoluteReport (request : AbsoluteRequest) : Cell :=
  .fill absoluteReportId ((0 : UInt8) :: le16 (request.x >>> 1) ++ le16 (request.y >>> 1))

def submitKeyboard (ring : RingEndpoint) (request : KeyboardRequest) : Result × RingEndpoint :=
  if request.reserved ≠ 0 ∨ 1 < request.pressed.toNat then
    (.invalid, ring)
  else
    match keyBit request.usage with
    | none => (.invalid, ring)
    | some (index, bit) =>
      let pressed := request.pressed != 0
      let held := ring.keys.get index
      if (held &&& bit != 0) = pressed then
        (.unchanged, ring)
      else if ring.cursor.count = queueCapacity then
        (.busy, ring)
      else
        let ring := { ring with keys := ring.keys.set index (press held bit pressed) index.isLt }
        (.accepted, ring.enqueue ring.keyboardReport)

def submitButton (ring : RingEndpoint) (request : ButtonRequest) : Result × RingEndpoint :=
  if request.reserved ≠ 0 ∨ 1 < request.pressed.toNat ∨ request.button.toNat < 1 ∨
      5 < request.button.toNat then
    (.invalid, ring)
  else
    let bit : UInt8 := 1 <<< (request.button - 1)
    let pressed := request.pressed != 0
    if (ring.buttons &&& bit != 0) = pressed then
      (.unchanged, ring)
    else if ring.cursor.count = queueCapacity then
      (.busy, ring)
    else
      let ring := { ring with buttons := press ring.buttons bit pressed }
      (.accepted, ring.enqueue (ring.relativeReport 0 0 0 0))

def submitConsumer (ring : RingEndpoint) (request : ConsumerRequest) : Result × RingEndpoint :=
  if request.reserved ≠ 0 ∨ 1 < request.pressed.toNat then
    (.invalid, ring)
  else
    match consumerBit request.usage with
    | none => (.invalid, ring)
    | some bit =>
      let pressed := request.pressed != 0
      if (ring.consumerButtons &&& bit != 0) = pressed then
        (.unchanged, ring)
      else if ring.cursor.count = queueCapacity then
        (.busy, ring)
      else
        let ring := { ring with
          consumerButtons := press ring.consumerButtons bit pressed }
        (.accepted, ring.enqueue ring.consumerReport)

def submitRelative (ring : RingEndpoint) (request : RelativeRequest) : Result × RingEndpoint :=
  if request.reserved ≠ 0 ∨ request.wheel = -128 ∨ request.pan = -128 then
    (.invalid, ring)
  else if request.x = 0 ∧ request.y = 0 ∧ request.wheel = 0 ∧ request.pan = 0 then
    (.unchanged, ring)
  else if ring.cursor.count = queueCapacity then
    (.busy, ring)
  else
    (.accepted, ring.enqueue (ring.relativeReport request.x request.y request.wheel request.pan))

def submitAbsolute (ring : RingEndpoint) (request : AbsoluteRequest) : Result × RingEndpoint :=
  if ring.absoluteGeneration = 0 then
    (.unsupported, ring)
  else if request.targetGeneration ≠ ring.absoluteGeneration then
    (.notReady, ring)
  else if ring.cursor.count = queueCapacity then
    (.busy, ring)
  else
    (.accepted, ring.enqueue (absoluteReport request))

def submit (ring : RingEndpoint) (owner : OwnerToken) (request : Request) :
    Result × RingEndpoint :=
  if ring.admission owner ≠ .accepted then
    (ring.admission owner, ring)
  else if !request.valid then
    (.invalid, ring)
  else
    match request with
    | .keyboard request => ring.submitKeyboard request
    | .consumer request => ring.submitConsumer request
    | .button request => ring.submitButton request
    | .relative request => ring.submitRelative request
    | .absolute request => ring.submitAbsolute request

def close (ring : RingEndpoint) (owner : OwnerToken) : Result × RingEndpoint :=
  if owner = none ∨ owner ≠ ring.owner then
    (.notOwner, ring)
  else if ring.state = .closing then
    (.unchanged, ring)
  else if ring.state ≠ .active then
    (.notReady, ring)
  else
    let ring := { ring with
      state := .closing
      cursor := emptyCursor
      keys := Vector.replicate _ 0
      buttons := 0
      consumerButtons := 0 }
    (.accepted, ((ring.enqueue ring.keyboardReport).enqueue
      (ring.relativeReport 0 0 0 0)).enqueue ring.consumerReport)

def readyForReport (ring : RingEndpoint) : RingEndpoint :=
  if ring.state ≠ .active ∧ ring.state ≠ .closing then
    ring
  else if ring.state = .closing ∧ ring.cursor.count = 0 then
    { ring with state := .drained, credit := false }
  else
    { ring with credit := true }

-- The report is copied out of the ring, so that its cell is free again at once.
def takeReport (ring : RingEndpoint) : Option Cell × RingEndpoint :=
  if !ring.credit ∨ ring.cursor.count = 0 ∨ (ring.state ≠ .active ∧ ring.state ≠ .closing) then
    (none, ring)
  else
    (some (ring.cursor.read ring.queue 0), { ring with
      retained := ring.cursor.read ring.queue 0, cursor := ring.cursor.pop, credit := false })

def submissionFailed (ring : RingEndpoint) : RingEndpoint :=
  if ring.state = .closed then ring
  else { ring with state := .faulted, credit := false, cursor := emptyCursor }

-- The waiting cells, oldest first, and the endpoint whose line they are.
def waiting (ring : RingEndpoint) : List Cell := ring.cursor.view ring.queue

def toEndpoint (ring : RingEndpoint) : Endpoint where
  owner := ring.owner
  state := ring.state
  absoluteGeneration := ring.absoluteGeneration
  keys := ring.keys
  buttons := ring.buttons
  consumerButtons := ring.consumerButtons
  queue := ring.waiting.map Cell.report
  retained := ring.retained.report
  credit := ring.credit

end RingEndpoint

-- What a caller is told.
inductive Answer where
  | nothing
  | result (result : Result)
  | report (report : Option Report)

def Endpoint.perform (endpoint : Endpoint) : EndpointOp → Answer × Endpoint
  | .openBy owner generation => (endpoint.openBy owner generation).map .result id
  | .submit owner request => (endpoint.submit owner request).map .result id
  | .ready => (.nothing, endpoint.readyForReport)
  | .take => endpoint.takeReport.map .report id
  | .close owner => (endpoint.close owner).map .result id
  | .failed => (.nothing, endpoint.submissionFailed)
  | .reset => (.nothing, .reset)

namespace RingEndpoint

def perform (ring : RingEndpoint) : EndpointOp → Answer × RingEndpoint
  | .openBy owner generation => (ring.openBy owner generation).map .result id
  | .submit owner request => (ring.submit owner request).map .result id
  | .ready => (.nothing, ring.readyForReport)
  | .take => ring.takeReport.map (fun cell => .report (cell.map Cell.report)) id
  | .close owner => (ring.close owner).map .result id
  | .failed => (.nothing, ring.submissionFailed)
  | .reset => (.nothing, ring.resetAfterDeviceDeleted)

def runFrom (ring : RingEndpoint) (ops : List EndpointOp) : RingEndpoint :=
  ops.foldl (fun ring op => (ring.perform op).2) ring

end RingEndpoint

section Cells

-- The id that VHF is told is the first byte that it reads, and all it reads is the cell's.
structure Cell.Sealed (cell : Cell) : Prop where
  id : cell.bytes[0] = cell.id
  nonempty : 0 < cell.length.toNat
  within : cell.length.toNat ≤ reportBytes

variable {id : UInt8} {payload : List UInt8}

theorem Cell.fill_length (h : payload.length < reportBytes) :
    (Cell.fill id payload).length.toNat = payload.length + 1 :=
  UInt8.toNat_ofNat_of_lt (by simp only [reportBytes, UInt8.size] at h ⊢; omega)

theorem Cell.sealed_fill (h : payload.length < reportBytes) : (Cell.fill id payload).Sealed where
  id := by simp [Cell.fill]
  nonempty := by rw [Cell.fill_length h]; omega
  within := by rw [Cell.fill_length h]; omega

-- What was written is what is read.
theorem Cell.report_fill (h : payload.length < reportBytes) :
    (Cell.fill id payload).report = ⟨id :: payload⟩ := by
  have hlength := @Cell.fill_length id payload h
  rw [Cell.report, hlength]
  refine congrArg Report.mk (List.ext_getElem? fun i => ?_)
  by_cases hi : i < payload.length + 1
  · have hcell : i < reportBytes := by omega
    rw [List.getElem?_take_of_lt hi, List.getElem?_eq_getElem (by simpa using hcell),
      List.getElem?_eq_getElem (by simpa using hi)]
    simp [Cell.fill, hi]
  · rw [List.getElem?_eq_none (by simp; omega), List.getElem?_eq_none (by simp; omega)]

end Cells

namespace RingEndpoint

section Reports

variable (ring : RingEndpoint)

theorem sealed_keyboardReport : ring.keyboardReport.Sealed := Cell.sealed_fill (by simp)

theorem sealed_consumerReport : ring.consumerReport.Sealed :=
  Cell.sealed_fill (by simp [reportBytes])

theorem sealed_relativeReport (x y : Int16) (wheel pan : Int8) :
    (ring.relativeReport x y wheel pan).Sealed :=
  Cell.sealed_fill (by simp [Sc26Usb.leInt16, le16, reportBytes])

theorem sealed_absoluteReport (request : AbsoluteRequest) : (absoluteReport request).Sealed :=
  Cell.sealed_fill (by simp [le16, reportBytes])

theorem report_keyboardReport :
    ring.keyboardReport.report = ring.toEndpoint.keyboardReport :=
  Cell.report_fill (by simp)

theorem report_consumerReport :
    ring.consumerReport.report = ring.toEndpoint.consumerReport :=
  Cell.report_fill (by simp [reportBytes])

theorem report_relativeReport (x y : Int16) (wheel pan : Int8) :
    (ring.relativeReport x y wheel pan).report = ring.toEndpoint.relativeReport x y wheel pan :=
  Cell.report_fill (by simp [Sc26Usb.leInt16, le16, reportBytes])

theorem report_absoluteReport (request : AbsoluteRequest) :
    (absoluteReport request).report = Endpoint.absoluteReport request :=
  Cell.report_fill (by simp [le16, reportBytes])

end Reports

-- Every waiting cell is sealed, and a closed endpoint retains none.
structure Laid (ring : RingEndpoint) : Prop where
  sealed : ∀ cell ∈ ring.waiting, cell.Sealed
  closed : ring.state = .closed → ring.retained = .zero

section Fields

variable (ring : RingEndpoint)

@[simp] theorem toEndpoint_state : ring.toEndpoint.state = ring.state := rfl

@[simp] theorem toEndpoint_owner : ring.toEndpoint.owner = ring.owner := rfl

@[simp] theorem toEndpoint_absoluteGeneration :
    ring.toEndpoint.absoluteGeneration = ring.absoluteGeneration := rfl

@[simp] theorem toEndpoint_keys : ring.toEndpoint.keys = ring.keys := rfl

@[simp] theorem toEndpoint_buttons : ring.toEndpoint.buttons = ring.buttons := rfl

@[simp] theorem toEndpoint_consumerButtons :
    ring.toEndpoint.consumerButtons = ring.consumerButtons := rfl

@[simp] theorem toEndpoint_credit : ring.toEndpoint.credit = ring.credit := rfl

end Fields

theorem waiting_length (ring : RingEndpoint) : ring.waiting.length = ring.cursor.count :=
  Cursor.view_length _ _

theorem queue_length (ring : RingEndpoint) :
    ring.toEndpoint.queue.length = ring.cursor.count := by
  simp only [toEndpoint, List.length_map, waiting_length]

section Enqueue

variable {ring : RingEndpoint} {cell : Cell}

theorem waiting_enqueue (h : ring.cursor.count < queueCapacity) :
    (ring.enqueue cell).waiting = ring.waiting ++ [cell] :=
  Cursor.view_push _ _ _ h

theorem toEndpoint_enqueue (h : ring.cursor.count < queueCapacity) :
    (ring.enqueue cell).toEndpoint = ring.toEndpoint.enqueue cell.report := by
  have hwaiting := @waiting_enqueue ring cell h
  simp only [toEndpoint, hwaiting, List.map_append, List.map_singleton]
  rfl

theorem Laid.enqueue (h : ring.Laid) (hroom : ring.cursor.count < queueCapacity)
    (hcell : cell.Sealed) : (ring.enqueue cell).Laid where
  sealed other hother := by
    rw [waiting_enqueue hroom] at hother
    rcases List.mem_append.mp hother with hold | hnew
    · exact h.sealed other hold
    · rw [List.mem_singleton.mp hnew]
      exact hcell
  closed := h.closed

end Enqueue

-- The ring answers what the line answers, holds what the line holds, and keeps its cells
-- and the retained one in order.
structure Mirrors (ring : RingEndpoint) (answer : Result × RingEndpoint)
    (line : Result × Endpoint) : Prop where
  result : answer.1 = line.1
  endpoint : answer.2.toEndpoint = line.2
  laid : ring.Laid → answer.2.Laid
  retained : ring.Laid → answer.2.retained = ring.retained

section Submit

variable {ring : RingEndpoint}

theorem mirrors_refused (result : Result) :
    Mirrors ring (result, ring) (result, ring.toEndpoint) := ⟨rfl, rfl, id, fun _ => rfl⟩

-- The held state has changed, and its report is stored.
theorem mirrors_stored {changed : RingEndpoint} {cell : Cell} {report : Report}
    (hroom : ring.cursor.count ≠ queueCapacity) (hcursor : changed.cursor = ring.cursor)
    (hqueue : changed.queue = ring.queue) (hstate : changed.state = ring.state)
    (hretained : changed.retained = ring.retained) (hcell : cell.Sealed)
    (hreport : cell.report = report) :
    Mirrors ring (.accepted, changed.enqueue cell)
      (.accepted, changed.toEndpoint.enqueue report) := by
  have hcount : changed.cursor.count < queueCapacity := by
    have hle := ring.cursor.count_le
    rw [hcursor]
    omega
  refine ⟨rfl, ?_, fun hlaid => ?_, fun _ => hretained⟩
  · rw [← hreport]
    exact toEndpoint_enqueue hcount
  · have hwaiting : changed.waiting = ring.waiting := by
      simp only [waiting, hcursor, hqueue]
    have hchanged : changed.Laid :=
      ⟨hwaiting ▸ hlaid.sealed, fun h => hretained.trans (hlaid.closed (hstate.symm.trans h))⟩
    exact hchanged.enqueue hcount hcell

theorem mirrors_submitKeyboard (request : KeyboardRequest) :
    Mirrors ring (ring.submitKeyboard request) (ring.toEndpoint.submitKeyboard request) := by
  unfold submitKeyboard Endpoint.submitKeyboard
  split
  · exact mirrors_refused _
  · cases keyBit request.usage with
    | none => exact mirrors_refused _
    | some key =>
        obtain ⟨index, bit⟩ := key
        have hget : ring.keys.get index = ring.keys[index] := rfl
        simp only [queue_length, toEndpoint_keys, hget]
        split
        · exact mirrors_refused _
        · split
          · exact mirrors_refused _
          · rename_i hroom
            exact mirrors_stored hroom rfl rfl rfl rfl (sealed_keyboardReport _)
              (report_keyboardReport _)

theorem mirrors_submitButton (request : ButtonRequest) :
    Mirrors ring (ring.submitButton request) (ring.toEndpoint.submitButton request) := by
  unfold submitButton Endpoint.submitButton
  split
  · exact mirrors_refused _
  · simp only [queue_length, toEndpoint_buttons]
    split
    · exact mirrors_refused _
    · split
      · exact mirrors_refused _
      · rename_i hroom
        exact mirrors_stored hroom rfl rfl rfl rfl (sealed_relativeReport _ 0 0 0 0)
          (report_relativeReport _ 0 0 0 0)

theorem mirrors_submitConsumer (request : ConsumerRequest) :
    Mirrors ring (ring.submitConsumer request) (ring.toEndpoint.submitConsumer request) := by
  unfold submitConsumer Endpoint.submitConsumer
  split
  · exact mirrors_refused _
  · cases consumerBit request.usage with
    | none => exact mirrors_refused _
    | some bit =>
        simp only [queue_length, toEndpoint_consumerButtons]
        split
        · exact mirrors_refused _
        · split
          · exact mirrors_refused _
          · rename_i hroom
            exact mirrors_stored hroom rfl rfl rfl rfl (sealed_consumerReport _)
              (report_consumerReport _)

theorem mirrors_submitRelative (request : RelativeRequest) :
    Mirrors ring (ring.submitRelative request) (ring.toEndpoint.submitRelative request) := by
  unfold submitRelative Endpoint.submitRelative
  rw [queue_length]
  split
  · exact mirrors_refused _
  · split
    · exact mirrors_refused _
    · split
      · exact mirrors_refused _
      · rename_i hroom
        exact mirrors_stored hroom rfl rfl rfl rfl (sealed_relativeReport _ _ _ _ _)
          (report_relativeReport _ _ _ _ _)

theorem mirrors_submitAbsolute (request : AbsoluteRequest) :
    Mirrors ring (ring.submitAbsolute request) (ring.toEndpoint.submitAbsolute request) := by
  unfold submitAbsolute Endpoint.submitAbsolute
  rw [queue_length, toEndpoint_absoluteGeneration]
  split
  · exact mirrors_refused _
  · split
    · exact mirrors_refused _
    · split
      · exact mirrors_refused _
      · rename_i hroom
        exact mirrors_stored hroom rfl rfl rfl rfl (sealed_absoluteReport request)
          (report_absoluteReport request)

theorem mirrors_submit (owner : OwnerToken) (request : Request) :
    Mirrors ring (ring.submit owner request) (ring.toEndpoint.submit owner request) := by
  have hadmission : ring.toEndpoint.admission owner = ring.admission owner := rfl
  unfold submit Endpoint.submit
  rw [hadmission]
  split
  · exact mirrors_refused _
  · split
    · exact mirrors_refused _
    · cases request with
      | keyboard request => exact mirrors_submitKeyboard request
      | consumer request => exact mirrors_submitConsumer request
      | button request => exact mirrors_submitButton request
      | relative request => exact mirrors_submitRelative request
      | absolute request => exact mirrors_submitAbsolute request

end Submit

section Lifecycle

variable {ring : RingEndpoint}

theorem waiting_of_emptyCursor (h : ring.cursor = emptyCursor) : ring.waiting = [] := by
  simp only [waiting, h]
  rfl

theorem laid_of_emptyCursor (h : ring.cursor = emptyCursor)
    (hclosed : ring.state = .closed → ring.retained = .zero) : ring.Laid where
  sealed cell hcell := by
    rw [waiting_of_emptyCursor h] at hcell
    cases hcell
  closed := hclosed

theorem count_enqueue {cell : Cell} (h : ring.cursor.count < queueCapacity) :
    (ring.enqueue cell).cursor.count = ring.cursor.count + 1 := Cursor.push_count _ h

theorem toEndpoint_reset : ring.resetAfterDeviceDeleted.toEndpoint = .reset := rfl

theorem laid_reset : ring.resetAfterDeviceDeleted.Laid := laid_of_emptyCursor rfl fun _ => rfl

theorem mirrors_openBy (owner : OwnerToken) (generation : UInt32) :
    Mirrors ring (ring.openBy owner generation) (ring.toEndpoint.openBy owner generation) := by
  unfold openBy Endpoint.openBy
  rw [toEndpoint_state]
  split
  · exact mirrors_refused _
  · split
    · exact mirrors_refused _
    · rename_i hclosed
      refine ⟨rfl, rfl, fun _ => laid_of_emptyCursor rfl fun _ => rfl, fun hlaid => ?_⟩
      exact (hlaid.closed (Decidable.not_not.mp hclosed)).symm

-- The neutral reports go into the first three cells.
theorem mirrors_close (owner : OwnerToken) :
    Mirrors ring (ring.close owner) (ring.toEndpoint.close owner) := by
  unfold close Endpoint.close
  rw [toEndpoint_owner, toEndpoint_state]
  split
  · exact mirrors_refused _
  · split
    · exact mirrors_refused _
    · split
      · exact mirrors_refused _
      · let emptied : RingEndpoint := { ring with
          state := .closing
          cursor := emptyCursor
          keys := Vector.replicate _ 0
          buttons := 0
          consumerButtons := 0 }
        let keys := emptied.enqueue emptied.keyboardReport
        let pointer := keys.enqueue (emptied.relativeReport 0 0 0 0)
        have hempty : emptied.cursor.count < queueCapacity := Nat.succ_pos _
        have hkeys : keys.cursor.count = 1 := count_enqueue hempty
        have hone : keys.cursor.count < queueCapacity := by rw [hkeys]; decide
        have hpointer : pointer.cursor.count = 2 := by rw [count_enqueue hone, hkeys]
        have htwo : pointer.cursor.count < queueCapacity := by rw [hpointer]; decide
        refine ⟨rfl, ?_, fun hlaid => ?_, fun _ => rfl⟩
        · show (pointer.enqueue emptied.consumerReport).toEndpoint = _
          rw [toEndpoint_enqueue htwo, toEndpoint_enqueue hone, toEndpoint_enqueue hempty,
            report_keyboardReport, report_relativeReport, report_consumerReport]
          rfl
        · have hemptied : emptied.Laid := laid_of_emptyCursor rfl fun h => by cases h
          exact ((hemptied.enqueue hempty (sealed_keyboardReport _)).enqueue hone
            (sealed_relativeReport _ 0 0 0 0)).enqueue htwo (sealed_consumerReport _)

theorem queue_isEmpty_iff (ring : RingEndpoint) :
    ring.toEndpoint.queue.isEmpty = true ↔ ring.cursor.count = 0 := by
  rw [List.isEmpty_iff, ← List.length_eq_zero_iff, queue_length]

theorem toEndpoint_readyForReport (ring : RingEndpoint) :
    ring.readyForReport.toEndpoint = ring.toEndpoint.readyForReport := by
  unfold readyForReport Endpoint.readyForReport
  simp only [toEndpoint_state, queue_isEmpty_iff]
  split
  · rfl
  · split <;> rfl

theorem Laid.readyForReport (h : ring.Laid) : ring.readyForReport.Laid := by
  unfold RingEndpoint.readyForReport
  split
  · exact h
  · split
    · exact ⟨h.sealed, fun hclosed => by cases hclosed⟩
    · exact ⟨h.sealed, h.closed⟩

theorem toEndpoint_submissionFailed (ring : RingEndpoint) :
    ring.submissionFailed.toEndpoint = ring.toEndpoint.submissionFailed := by
  unfold submissionFailed Endpoint.submissionFailed
  rw [toEndpoint_state]
  split <;> rfl

theorem Laid.submissionFailed (h : ring.Laid) : ring.submissionFailed.Laid := by
  unfold RingEndpoint.submissionFailed
  split
  · exact h
  · exact laid_of_emptyCursor rfl fun hclosed => by cases hclosed

-- A take finds nothing, or copies the cell at the head and moves the head on.
theorem takeReport_cases (ring : RingEndpoint) :
    (ring.takeReport = (none, ring) ∧ ring.toEndpoint.takeReport = (none, ring.toEndpoint)) ∨
      ∃ cell rest, ring.waiting = cell :: rest ∧ ring.state ≠ .closed ∧
        ring.takeReport.1 = some cell ∧ ring.takeReport.2.waiting = rest ∧
        ring.takeReport.2.state = ring.state ∧
        ring.toEndpoint.takeReport = (some cell.report, ring.takeReport.2.toEndpoint) := by
  by_cases hcount : ring.cursor.count = 0
  · have hqueue : ring.toEndpoint.queue = [] := by
      rw [← List.length_eq_zero_iff, queue_length, hcount]
    exact .inl ⟨by simp [takeReport, hcount], by simp only [Endpoint.takeReport, hqueue]⟩
  · have hwaiting := Cursor.view_cons ring.cursor ring.queue (Nat.pos_of_ne_zero hcount)
    have hqueue : ring.toEndpoint.queue = (ring.cursor.read ring.queue 0).report ::
        (ring.cursor.pop.view ring.queue).map Cell.report := by
      rw [← List.map_cons, ← hwaiting]
      rfl
    by_cases hheld : (!ring.credit) = true ∨ (ring.state ≠ .active ∧ ring.state ≠ .closing)
    · refine .inl ⟨?_, ?_⟩
      · simp only [takeReport, hcount, false_or, hheld, if_true]
      · simp only [Endpoint.takeReport, hqueue, toEndpoint_credit, toEndpoint_state, hheld, if_true]
    · have htake : ring.takeReport = (some (ring.cursor.read ring.queue 0), { ring with
          retained := ring.cursor.read ring.queue 0, cursor := ring.cursor.pop, credit := false }) := by
        simp only [takeReport, hcount, false_or, hheld, if_false]
      have hopen : ring.state ≠ .closed := by
        rintro hclosed
        exact hheld (.inr (by simp [hclosed]))
      refine .inr ⟨_, _, hwaiting, hopen, by rw [htake], by rw [htake]; rfl, by rw [htake], ?_⟩
      simp only [Endpoint.takeReport, hqueue, toEndpoint_credit, toEndpoint_state, hheld, if_false,
        htake]
      rfl

theorem Laid.takeReport (h : ring.Laid) : ring.takeReport.2.Laid := by
  rcases takeReport_cases ring with ⟨htake, -⟩ | ⟨cell, rest, hwaiting, hopen, -, hrest, hstate, -⟩
  · rw [htake]
    exact h
  · refine ⟨fun other hother => h.sealed other ?_, fun hclosed => ?_⟩
    · rw [hrest] at hother
      rw [hwaiting]
      exact List.mem_cons_of_mem _ hother
    · exact absurd (hstate.symm.trans hclosed) hopen

end Lifecycle

section Runs

variable {ring : RingEndpoint}

-- Each operation is answered as the line answers it, and leaves what the line is left with.
theorem perform_toEndpoint (ring : RingEndpoint) (op : EndpointOp) :
    (ring.perform op).1 = (ring.toEndpoint.perform op).1 ∧
      (ring.perform op).2.toEndpoint = (ring.toEndpoint.perform op).2 := by
  cases op with
  | openBy owner generation =>
      have h := @mirrors_openBy ring owner generation
      exact ⟨congrArg Answer.result h.result, h.endpoint⟩
  | submit owner request =>
      have h := @mirrors_submit ring owner request
      exact ⟨congrArg Answer.result h.result, h.endpoint⟩
  | ready => exact ⟨rfl, toEndpoint_readyForReport ring⟩
  | take =>
      rcases takeReport_cases ring with ⟨htake, hline⟩ | ⟨cell, rest, -, -, hcell, -, -, hline⟩
      · simp only [perform, Endpoint.perform, htake, hline]
        exact ⟨rfl, rfl⟩
      · simp only [perform, Endpoint.perform, hline, Prod.map, hcell]
        exact ⟨rfl, rfl⟩
  | close owner =>
      have h := @mirrors_close ring owner
      exact ⟨congrArg Answer.result h.result, h.endpoint⟩
  | failed => exact ⟨rfl, toEndpoint_submissionFailed ring⟩
  | reset => exact ⟨rfl, toEndpoint_reset⟩

theorem Laid.perform (h : ring.Laid) (op : EndpointOp) : (ring.perform op).2.Laid := by
  cases op with
  | openBy owner generation => exact (mirrors_openBy owner generation).laid h
  | submit owner request => exact (mirrors_submit owner request).laid h
  | ready => exact h.readyForReport
  | take => exact h.takeReport
  | close owner => exact (mirrors_close owner).laid h
  | failed => exact h.submissionFailed
  | reset => exact laid_reset

-- VHF may read the retained cell until the next one is taken or the child is gone.
theorem Laid.retained (h : ring.Laid) {op : EndpointOp} (htake : op ≠ .take)
    (hreset : op ≠ .reset) : (ring.perform op).2.retained = ring.retained := by
  cases op with
  | openBy owner generation => exact (mirrors_openBy owner generation).retained h
  | submit owner request => exact (mirrors_submit owner request).retained h
  | ready =>
      simp only [RingEndpoint.perform, RingEndpoint.readyForReport]
      split
      · rfl
      · split <;> rfl
  | take => exact absurd rfl htake
  | close owner => exact (mirrors_close owner).retained h
  | failed =>
      simp only [RingEndpoint.perform, RingEndpoint.submissionFailed]
      split <;> rfl
  | reset => exact absurd rfl hreset

theorem laid_initial : initial.Laid := laid_of_emptyCursor rfl fun _ => rfl

theorem Laid.runFrom (h : ring.Laid) (ops : List EndpointOp) : (ring.runFrom ops).Laid := by
  induction ops generalizing ring with
  | nil => exact h
  | cons op rest ih => exact ih (h.perform op)

end Runs

end RingEndpoint

-- The history that a run keeps has no part in what becomes of its endpoint.
theorem EndpointRun.step_endpoint (run : EndpointRun) (op : EndpointOp) :
    (run.step op).endpoint = (run.endpoint.perform op).2 := by
  cases op with
  | openBy owner generation =>
      simp only [EndpointRun.step, Endpoint.perform]
      split <;> rfl
  | _ => rfl

theorem RingEndpoint.toEndpoint_runFrom {ring : RingEndpoint} {run : EndpointRun}
    (h : ring.toEndpoint = run.endpoint) (ops : List EndpointOp) :
    (ring.runFrom ops).toEndpoint = (run.runFrom ops).endpoint := by
  induction ops generalizing ring run with
  | nil => exact h
  | cons op rest ih =>
      refine @ih (ring.perform op).2 (run.step op) ?_
      rw [(perform_toEndpoint ring op).2, h, run.step_endpoint op]

-- After any operations the ring holds the reports that the line holds and answers the next
-- operation as the line does; what it hands to VHF is sealed, and stays untouched there.
theorem ring_exact (ops : List EndpointOp) :
    let ring := RingEndpoint.initial.runFrom ops
    let run := EndpointRun.start.runFrom ops
    ring.toEndpoint = run.endpoint ∧
      (∀ op, (ring.perform op).1 = (run.endpoint.perform op).1) ∧
      (∀ cell, ring.takeReport.1 = some cell → cell.Sealed) ∧
      ∀ op, op ≠ .take → op ≠ .reset → (ring.perform op).2.retained = ring.retained := by
  intro ring run
  have hlaid : ring.Laid := RingEndpoint.laid_initial.runFrom ops
  have hsame : ring.toEndpoint = run.endpoint := RingEndpoint.toEndpoint_runFrom rfl ops
  refine ⟨hsame, fun op => ?_, fun cell hcell => ?_, fun op => hlaid.retained⟩
  · rw [← hsame]
    exact (ring.perform_toEndpoint op).1
  · rcases ring.takeReport_cases with ⟨htake, -⟩ | ⟨other, rest, hwaiting, -, htake, -⟩
    · rw [htake] at hcell
      cases hcell
    · obtain rfl := Option.some.inj (htake.symm.trans hcell)
      exact hlaid.sealed other (by rw [hwaiting]; exact List.mem_cons_self)

end LibVirtualGamepad.KeyboardMouse
