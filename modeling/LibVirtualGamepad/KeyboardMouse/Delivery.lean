import LibVirtualGamepad.KeyboardMouse.Endpoint

-- Runs of the endpoint, and what reaches the host: every accepted event in its order,
-- one report for each.
namespace LibVirtualGamepad.KeyboardMouse

open Endpoint
open Sc26Usb (int16At int16At_leInt16)

inductive EndpointOp where
  | openBy (owner : OwnerToken) (generation : UInt32)
  | submit (owner : OwnerToken) (request : Request)
  | ready
  | take
  | close (owner : OwnerToken)
  | failed
  | reset

-- The endpoint with its history since it was opened: the accepted requests, each with
-- its report, and the reports taken, since the open and since the close.
structure EndpointRun where
  endpoint : Endpoint
  accepted : List (Request × Report)
  taken : List Report
  takenClosing : List Report

namespace Endpoint

-- The report of a request, with the held state as it is then.
def reportOf (endpoint : Endpoint) : Request → Report
  | .keyboard _ => endpoint.keyboardReport
  | .consumer _ => endpoint.consumerReport
  | .button _ => endpoint.relativeReport 0 0 0 0
  | .relative request => endpoint.relativeReport request.x request.y request.wheel request.pan
  | .absolute request => absoluteReport request

end Endpoint

-- The axes of a relative movement.
inductive Axis where
  | x
  | y
  | wheel
  | pan

-- How far a report moves the pointer and the wheels, as the host reads it.
def Report.moved (report : Report) (axis : Axis) : Int :=
  if report.bytes.headD 0 = relativeReportId then
    match axis with
    | .x => (int16At report.bytes 2).toInt
    | .y => (int16At report.bytes 4).toInt
    | .wheel => (report.bytes.getD 6 0).toInt8.toInt
    | .pan => (report.bytes.getD 7 0).toInt8.toInt
  else
    0

-- How far a request asks to move.
def Request.moved (request : Request) (axis : Axis) : Int :=
  match request with
  | .relative request =>
    match axis with
    | .x => request.x.toInt
    | .y => request.y.toInt
    | .wheel => request.wheel.toInt
    | .pan => request.pan.toInt
  | _ => 0

namespace EndpointRun

def start : EndpointRun := ⟨.reset, [], [], []⟩

def step (run : EndpointRun) : EndpointOp → EndpointRun
  | .openBy owner generation =>
    let (result, endpoint) := run.endpoint.openBy owner generation
    if result = .accepted then ⟨endpoint, [], [], []⟩ else { run with endpoint := endpoint }
  | .submit owner request =>
    let (result, endpoint) := run.endpoint.submit owner request
    { run with
      endpoint := endpoint
      accepted := if result = .accepted then
          run.accepted ++ [(request, (run.endpoint.held request).reportOf request)]
        else run.accepted }
  | .ready => { run with endpoint := run.endpoint.readyForReport }
  | .take =>
    let (report, endpoint) := run.endpoint.takeReport
    { run with
      endpoint := endpoint
      taken := run.taken ++ report.toList
      takenClosing := run.takenClosing ++ report.toList }
  | .close owner =>
    let (result, endpoint) := run.endpoint.close owner
    { run with
      endpoint := endpoint
      takenClosing := if result = .accepted then [] else run.takenClosing }
  | .failed => { run with endpoint := run.endpoint.submissionFailed }
  | .reset => { run with endpoint := .reset }

def runFrom (run : EndpointRun) (ops : List EndpointOp) : EndpointRun := ops.foldl step run

-- The reports taken and the readinesses in a run.
def reportsTaken (run : EndpointRun) : List EndpointOp → Nat
  | [] => 0
  | .take :: ops =>
    run.endpoint.takeReport.1.toList.length + (run.step .take).reportsTaken ops
  | op :: ops => (run.step op).reportsTaken ops

def readinesses : List EndpointOp → Nat
  | [] => 0
  | .ready :: ops => readinesses ops + 1
  | _ :: ops => readinesses ops

end EndpointRun

section Submit

variable {endpoint : Endpoint}

-- Only the held state follows a request.
theorem held_frame (endpoint : Endpoint) (request : Request) :
    (endpoint.held request).state = endpoint.state ∧
      (endpoint.held request).queue = endpoint.queue ∧
      (endpoint.held request).retained = endpoint.retained ∧
      (endpoint.held request).credit = endpoint.credit := by
  cases request with
  | keyboard request =>
      simp only [held]
      split <;> exact ⟨rfl, rfl, rfl, rfl⟩
  | consumer request =>
      simp only [held]
      split <;> exact ⟨rfl, rfl, rfl, rfl⟩
  | button request => exact ⟨rfl, rfl, rfl, rfl⟩
  | relative request => exact ⟨rfl, rfl, rfl, rfl⟩
  | absolute request => exact ⟨rfl, rfl, rfl, rfl⟩

@[simp] theorem held_state (request : Request) :
    (endpoint.held request).state = endpoint.state := (held_frame endpoint request).1

@[simp] theorem held_queue (request : Request) :
    (endpoint.held request).queue = endpoint.queue := (held_frame endpoint request).2.1

@[simp] theorem held_retained (request : Request) :
    (endpoint.held request).retained = endpoint.retained := (held_frame endpoint request).2.2.1

@[simp] theorem held_credit (request : Request) :
    (endpoint.held request).credit = endpoint.credit := (held_frame endpoint request).2.2.2

@[simp] theorem enqueue_queue (report : Report) :
    (endpoint.enqueue report).queue = endpoint.queue ++ [report] := rfl

@[simp] theorem enqueue_state (report : Report) :
    (endpoint.enqueue report).state = endpoint.state := rfl

@[simp] theorem enqueue_retained (report : Report) :
    (endpoint.enqueue report).retained = endpoint.retained := rfl

@[simp] theorem enqueue_credit (report : Report) :
    (endpoint.enqueue report).credit = endpoint.credit := rfl

-- A request is refused and leaves the endpoint alone, or it is accepted: the held state
-- follows it and its report goes to the end of the queue.
def Settles (endpoint : Endpoint) (request : Request) (answer : Result × Endpoint) : Prop :=
  (answer.1 ≠ .accepted ∧ answer.2 = endpoint) ∨
    (endpoint.queue.length ≠ queueCapacity ∧
      answer = (.accepted,
        (endpoint.held request).enqueue ((endpoint.held request).reportOf request)))

theorem settles_refused {request : Request} {result : Result} (h : result ≠ .accepted) :
    Settles endpoint request (result, endpoint) := .inl ⟨h, rfl⟩

theorem submitKeyboard_settles (request : KeyboardRequest) :
    Settles endpoint (.keyboard request) (endpoint.submitKeyboard request) := by
  unfold submitKeyboard
  split
  · exact settles_refused (by simp)
  · cases hbit : keyBit request.usage with
    | none => exact settles_refused (by simp)
    | some key =>
        obtain ⟨index, bit⟩ := key
        dsimp only
        split
        · exact settles_refused (by simp)
        · split
          · exact settles_refused (by simp)
          · rename_i hroom
            exact .inr ⟨hroom, by simp only [held, hbit, reportOf]⟩

theorem submitConsumer_settles (request : ConsumerRequest) :
    Settles endpoint (.consumer request) (endpoint.submitConsumer request) := by
  unfold submitConsumer
  split
  · exact settles_refused (by simp)
  · cases hbit : consumerBit request.usage with
    | none => exact settles_refused (by simp)
    | some bit =>
        dsimp only
        split
        · exact settles_refused (by simp)
        · split
          · exact settles_refused (by simp)
          · rename_i hroom
            exact .inr ⟨hroom, by simp only [held, hbit, reportOf]⟩

theorem submitButton_settles (request : ButtonRequest) :
    Settles endpoint (.button request) (endpoint.submitButton request) := by
  unfold submitButton
  split
  · exact settles_refused (by simp)
  · dsimp only
    split
    · exact settles_refused (by simp)
    · split
      · exact settles_refused (by simp)
      · rename_i hroom
        exact .inr ⟨hroom, rfl⟩

theorem submitRelative_settles (request : RelativeRequest) :
    Settles endpoint (.relative request) (endpoint.submitRelative request) := by
  unfold submitRelative
  split
  · exact settles_refused (by simp)
  · split
    · exact settles_refused (by simp)
    · split
      · exact settles_refused (by simp)
      · rename_i hroom
        exact .inr ⟨hroom, rfl⟩

theorem submitAbsolute_settles (request : AbsoluteRequest) :
    Settles endpoint (.absolute request) (endpoint.submitAbsolute request) := by
  unfold submitAbsolute
  split
  · exact settles_refused (by simp)
  · split
    · exact settles_refused (by simp)
    · split
      · exact settles_refused (by simp)
      · rename_i hroom
        exact .inr ⟨hroom, rfl⟩

theorem submit_settles (endpoint : Endpoint) (owner : OwnerToken) (request : Request) :
    Settles endpoint request (endpoint.submit owner request) := by
  unfold submit
  split
  · rename_i hadmit
    exact settles_refused hadmit
  · split
    · exact settles_refused (by simp)
    · cases request with
      | keyboard request => exact submitKeyboard_settles request
      | consumer request => exact submitConsumer_settles request
      | button request => exact submitButton_settles request
      | relative request => exact submitRelative_settles request
      | absolute request => exact submitAbsolute_settles request

-- A take finds nothing, or uses the credit up for the report in front.
theorem takeReport_cases (endpoint : Endpoint) :
    endpoint.takeReport = (none, endpoint) ∨
      ∃ report rest, endpoint.queue = report :: rest ∧ endpoint.credit = true ∧
        (endpoint.state = .active ∨ endpoint.state = .closing) ∧
        endpoint.takeReport = (some report, { endpoint with
          retained := report, queue := rest, credit := false }) := by
  cases hqueue : endpoint.queue with
  | nil => exact .inl (by simp [takeReport, hqueue])
  | cons report rest =>
      by_cases hheld : (!endpoint.credit) = true ∨
          (endpoint.state ≠ .active ∧ endpoint.state ≠ .closing)
      · exact .inl (by simp only [takeReport, hqueue, hheld, if_true])
      · refine .inr ⟨report, rest, rfl, ?_, ?_, by
          simp only [takeReport, hqueue, hheld, if_false]⟩
        · cases hcredit : endpoint.credit with
          | false => exact absurd (.inl (by simp [hcredit])) hheld
          | true => rfl
        · by_contra hstate
          exact hheld (.inr (not_or.mp hstate))

-- Readiness is ignored, ends a close whose reports are all out, or grants the credit.
theorem readyForReport_cases (endpoint : Endpoint) :
    (endpoint.state ≠ .active ∧ endpoint.state ≠ .closing ∧ endpoint.readyForReport = endpoint) ∨
      (endpoint.state = .closing ∧ endpoint.queue = [] ∧
        endpoint.readyForReport = { endpoint with state := .drained, credit := false }) ∨
      ((endpoint.state = .active ∨ (endpoint.state = .closing ∧ endpoint.queue ≠ [])) ∧
        endpoint.readyForReport = { endpoint with credit := true }) := by
  unfold readyForReport
  split
  · rename_i hstate
    exact .inl ⟨hstate.1, hstate.2, rfl⟩
  · rename_i hstate
    have hstate' : endpoint.state = .active ∨ endpoint.state = .closing := by
      by_contra h
      exact hstate (not_or.mp h)
    split
    · rename_i hempty
      exact .inr (.inl ⟨hempty.1, List.isEmpty_iff.mp hempty.2, rfl⟩)
    · rename_i hfull
      refine .inr (.inr ⟨?_, rfl⟩)
      rcases hstate' with hactive | hclosing
      · exact .inl hactive
      · exact .inr ⟨hclosing, fun hnil => hfull ⟨hclosing, List.isEmpty_iff.mpr hnil⟩⟩

-- Only an active endpoint takes a request, and only from its owner.
theorem admission_of_accepted {owner : OwnerToken} {request : Request}
    (h : (endpoint.submit owner request).1 = .accepted) :
    endpoint.state = .active ∧ owner ≠ none ∧ owner = endpoint.owner := by
  have hadmit : endpoint.admission owner = .accepted := by
    by_contra hadmit
    simp [submit, hadmit] at h
  unfold admission at hadmit
  split at hadmit
  · simp at hadmit
  · rename_i hactive
    split at hadmit
    · simp at hadmit
    · rename_i howner
      simp only [not_or, Decidable.not_not] at hactive howner
      exact ⟨hactive, howner⟩

theorem submit_refused {owner : OwnerToken} {request : Request}
    (h : (endpoint.submit owner request).1 ≠ .accepted) :
    (endpoint.submit owner request).2 = endpoint := by
  rcases submit_settles endpoint owner request with ⟨_, hsame⟩ | ⟨_, haccepted⟩
  · exact hsame
  · rw [haccepted] at h
    exact absurd rfl h

end Submit

section Moved

theorem moved_relativeReport (endpoint : Endpoint) (request : RelativeRequest) (axis : Axis) :
    (endpoint.relativeReport request.x request.y request.wheel request.pan).moved axis =
      (Request.relative request).moved axis := by
  have hx := int16At_leInt16 [relativeReportId, endpoint.buttons]
    (Sc26Usb.leInt16 request.y ++ [request.wheel.toUInt8, request.pan.toUInt8]) request.x
  have hy := int16At_leInt16
    ([relativeReportId, endpoint.buttons] ++ Sc26Usb.leInt16 request.x)
    [request.wheel.toUInt8, request.pan.toUInt8] request.y
  cases axis with
  | x => exact congrArg Int16.toInt hx
  | y => exact congrArg Int16.toInt hy
  | wheel => rfl
  | pan => rfl

theorem moved_still (endpoint : Endpoint) (axis : Axis) :
    (endpoint.relativeReport 0 0 0 0).moved axis = 0 := by
  cases axis <;> rfl

-- A report moves by what its request asks for.
theorem moved_reportOf (endpoint : Endpoint) (request : Request) (axis : Axis) :
    ((endpoint.held request).reportOf request).moved axis = request.moved axis := by
  cases request with
  | keyboard request => rfl
  | consumer request => rfl
  | button request => exact moved_still _ axis
  | relative request => exact moved_relativeReport _ request axis
  | absolute request => rfl

end Moved

-- What the history of a run says of the endpoint.
structure Delivered (run : EndpointRun) : Prop where
  closed : run.endpoint.state = .closed → run.endpoint = .reset
  room : run.endpoint.queue.length ≤ queueCapacity
  line : run.endpoint.state = .active →
    run.taken ++ run.endpoint.queue = run.accepted.map Prod.snd
  moved : ∀ entry ∈ run.accepted, ∀ axis, entry.2.moved axis = entry.1.moved axis

namespace Delivered

variable {run : EndpointRun}

theorem start : Delivered .start where
  closed := fun _ => rfl
  room := Nat.zero_le _
  line := fun h => by simp [EndpointRun.start, Endpoint.reset] at h
  moved := by simp [EndpointRun.start]

theorem openBy (h : Delivered run) (owner : OwnerToken) (generation : UInt32) :
    Delivered (run.step (.openBy owner generation)) := by
  simp only [EndpointRun.step, Endpoint.openBy]
  split
  · exact h
  · split
    · exact h
    · refine ⟨fun hstate => ?_, Nat.zero_le _, fun _ => rfl, by simp⟩
      simp at hstate

theorem submit (h : Delivered run) (owner : OwnerToken) (request : Request) :
    Delivered (run.step (.submit owner request)) := by
  rcases submit_settles run.endpoint owner request with
    ⟨hrefused, hsame⟩ | ⟨hroom, haccepted⟩
  · simp only [EndpointRun.step, hrefused, hsame, if_false]
    exact h
  · have hactive : run.endpoint.state = .active :=
      (@admission_of_accepted _ owner request (by rw [haccepted])).1
    have hentry : ∀ axis, ((run.endpoint.held request).reportOf request).moved axis =
        request.moved axis := moved_reportOf run.endpoint request
    have hlen := h.room
    simp only [EndpointRun.step, haccepted, if_true]
    refine ⟨fun hstate => ?_, ?_, fun _ => ?_, fun entry hentries => ?_⟩
    · simp [hactive] at hstate
    · simp only [enqueue_queue, held_queue, List.length_append, List.length_singleton]
      omega
    · have hline := h.line hactive
      simp only [enqueue_queue, held_queue, List.map_append, List.map_cons, List.map_nil, ← hline,
        List.append_assoc]
    · rcases List.mem_append.mp hentries with hold | hnew
      · exact h.moved entry hold
      · rw [List.mem_singleton.mp hnew]
        exact hentry

theorem ready (h : Delivered run) : Delivered (run.step .ready) := by
  rcases readyForReport_cases run.endpoint with ⟨_, _, heq⟩ | ⟨_, _, heq⟩ | ⟨hstate, heq⟩
  · simp only [EndpointRun.step, heq]
    exact h
  · simp only [EndpointRun.step, heq]
    exact ⟨fun hclosed => by simp at hclosed, h.room, fun hactive => by simp at hactive, h.moved⟩
  · simp only [EndpointRun.step, heq]
    refine ⟨fun hclosed => ?_, h.room, h.line, h.moved⟩
    have hclosed' : run.endpoint.state = .closed := hclosed
    simp [hclosed'] at hstate

theorem take (h : Delivered run) : Delivered (run.step .take) := by
  rcases takeReport_cases run.endpoint with htake | ⟨report, rest, hqueue, _, hstate, htake⟩
  · simp only [EndpointRun.step, htake, Option.toList_none, List.append_nil]
    exact h
  · have hroom := h.room
    simp only [EndpointRun.step, htake, Option.toList_some]
    refine ⟨fun hclosed => ?_, ?_, fun hactive => ?_, h.moved⟩
    · have hclosed' : run.endpoint.state = .closed := hclosed
      simp [hclosed'] at hstate
    · rw [hqueue, List.length_cons] at hroom
      exact Nat.le_of_succ_le hroom
    · have hline := h.line hactive
      rw [hqueue] at hline
      rw [← hline, List.append_assoc]
      rfl

theorem close (h : Delivered run) (owner : OwnerToken) : Delivered (run.step (.close owner)) := by
  simp only [EndpointRun.step, Endpoint.close]
  split
  · exact h
  · split
    · exact h
    · split
      · exact h
      · refine ⟨fun hclosed => by simp at hclosed, ?_, fun hactive => by simp at hactive, h.moved⟩
        simp [queueCapacity]

theorem failed (h : Delivered run) : Delivered (run.step .failed) := by
  simp only [EndpointRun.step, Endpoint.submissionFailed]
  split
  · exact h
  · exact ⟨fun hclosed => by simp at hclosed, Nat.zero_le _, fun hactive => by simp at hactive,
      h.moved⟩

theorem reset (h : Delivered run) : Delivered (run.step .reset) :=
  ⟨fun _ => rfl, Nat.zero_le _, fun hactive => by simp [EndpointRun.step, Endpoint.reset] at hactive,
    h.moved⟩

theorem step (h : Delivered run) (op : EndpointOp) : Delivered (run.step op) := by
  cases op with
  | openBy owner generation => exact h.openBy owner generation
  | submit owner request => exact h.submit owner request
  | ready => exact h.ready
  | take => exact h.take
  | close owner => exact h.close owner
  | failed => exact h.failed
  | reset => exact h.reset

theorem runFrom (h : Delivered run) (ops : List EndpointOp) : Delivered (run.runFrom ops) := by
  induction ops generalizing run with
  | nil => exact h
  | cons op rest ih => exact ih (h.step op)

end Delivered

section Credit

def creditOf (endpoint : Endpoint) : Nat := if endpoint.credit then 1 else 0

theorem openBy_cases (endpoint : Endpoint) (owner : OwnerToken) (generation : UInt32) :
    ((endpoint.openBy owner generation).1 ≠ .accepted ∧
      (endpoint.openBy owner generation).2 = endpoint) ∨
      (endpoint.state = .closed ∧ endpoint.openBy owner generation =
        (.accepted, { reset with
          owner := owner, absoluteGeneration := generation, state := .active })) := by
  unfold openBy
  split
  · exact .inl ⟨by simp, rfl⟩
  · split
    · exact .inl ⟨by simp, rfl⟩
    · rename_i hclosed
      exact .inr ⟨Decidable.not_not.mp hclosed, rfl⟩

-- The queue after a close holds the neutral reports alone.
def neutralReports : List Report :=
  [⟨keyboardReportId :: List.replicate keyboardBytes 0⟩, ⟨[relativeReportId, 0, 0, 0, 0, 0, 0, 0]⟩,
    ⟨[consumerReportId, 0]⟩]

theorem close_cases (endpoint : Endpoint) (owner : OwnerToken) :
    ((endpoint.close owner).1 ≠ .accepted ∧ (endpoint.close owner).2 = endpoint) ∨
      (endpoint.state = .active ∧ endpoint.close owner =
        (.accepted, { endpoint with
          state := .closing
          queue := neutralReports
          keys := Vector.replicate _ 0
          buttons := 0
          consumerButtons := 0 })) := by
  unfold Endpoint.close
  split
  · exact .inl ⟨by simp, rfl⟩
  · split
    · exact .inl ⟨by simp, rfl⟩
    · split
      · exact .inl ⟨by simp, rfl⟩
      · rename_i hactive
        refine .inr ⟨Decidable.not_not.mp hactive, ?_⟩
        simp only [enqueue, keyboardReport, relativeReport, consumerReport, neutralReports,
          Vector.toList_replicate]
        rfl

-- The retained report changes in a take or a reset only.
theorem retained_step {run : EndpointRun} (h : Delivered run) {op : EndpointOp}
    (htake : op ≠ .take) (hreset : op ≠ .reset) :
    (run.step op).endpoint.retained = run.endpoint.retained := by
  cases op with
  | openBy owner generation =>
      rcases openBy_cases run.endpoint owner generation with ⟨hno, hsame⟩ | ⟨hclosed, hyes⟩
      · simp only [EndpointRun.step, hno, hsame, if_false]
      · rw [h.closed hclosed] at hyes ⊢
        simp only [EndpointRun.step, h.closed hclosed, hyes, if_true]
  | submit owner request =>
      rcases submit_settles run.endpoint owner request with ⟨_, hsame⟩ | ⟨_, hyes⟩
      · simp only [EndpointRun.step, hsame]
      · simp only [EndpointRun.step, hyes, enqueue_retained, held_retained]
  | ready =>
      rcases readyForReport_cases run.endpoint with ⟨_, _, heq⟩ | ⟨_, _, heq⟩ | ⟨_, heq⟩ <;>
        simp only [EndpointRun.step, heq]
  | take => exact absurd rfl htake
  | close owner =>
      rcases close_cases run.endpoint owner with ⟨_, hsame⟩ | ⟨_, hyes⟩
      · simp only [EndpointRun.step, hsame]
      · simp only [EndpointRun.step, hyes]
  | failed =>
      simp only [EndpointRun.step, submissionFailed]
      split <;> rfl
  | reset => exact absurd rfl hreset

theorem creditOf_le (endpoint : Endpoint) : creditOf endpoint ≤ 1 := by
  unfold creditOf
  split <;> omega

-- Only readiness brings new credit.
theorem creditOf_step (run : EndpointRun) {op : EndpointOp} (hready : op ≠ .ready) :
    creditOf (run.step op).endpoint ≤ creditOf run.endpoint := by
  cases op with
  | openBy owner generation =>
      rcases openBy_cases run.endpoint owner generation with ⟨hno, hsame⟩ | ⟨hclosed, hyes⟩
      · simp only [EndpointRun.step, hno, hsame, if_false, Nat.le_refl]
      · simp [EndpointRun.step, hyes, creditOf, Endpoint.reset]
  | submit owner request =>
      rcases submit_settles run.endpoint owner request with ⟨_, hsame⟩ | ⟨_, hyes⟩
      · simp only [EndpointRun.step, hsame, Nat.le_refl]
      · simp only [EndpointRun.step, hyes, creditOf, enqueue_credit, held_credit, Nat.le_refl]
  | ready => exact absurd rfl hready
  | take =>
      rcases takeReport_cases run.endpoint with heq | ⟨report, rest, _, _, _, heq⟩
      · simp only [EndpointRun.step, heq, Nat.le_refl]
      · simp [EndpointRun.step, heq, creditOf]
  | close owner =>
      rcases close_cases run.endpoint owner with ⟨_, hsame⟩ | ⟨_, hyes⟩
      · simp only [EndpointRun.step, hsame, Nat.le_refl]
      · simp only [EndpointRun.step, hyes, creditOf, Nat.le_refl]
  | failed =>
      simp only [EndpointRun.step, submissionFailed]
      split
      · exact Nat.le_refl _
      · simp [creditOf]
  | reset => simp [EndpointRun.step, creditOf, Endpoint.reset]

-- A report that is taken uses the credit up.
theorem creditOf_take (run : EndpointRun) :
    run.endpoint.takeReport.1.toList.length + creditOf (run.step .take).endpoint ≤
      creditOf run.endpoint := by
  rcases takeReport_cases run.endpoint with heq | ⟨report, rest, _, hcredit, _, heq⟩
  · simp [EndpointRun.step, heq]
  · simp [EndpointRun.step, heq, creditOf, hcredit]

-- Over any run there are no more reports than readinesses and the credit at hand.
theorem reportsTaken_le (run : EndpointRun) (ops : List EndpointOp) :
    run.reportsTaken ops + creditOf (run.runFrom ops).endpoint ≤
      creditOf run.endpoint + EndpointRun.readinesses ops := by
  induction ops generalizing run with
  | nil => simp [EndpointRun.reportsTaken, EndpointRun.runFrom]
  | cons op rest ih =>
      have hrest := ih (run.step op)
      have hrun : run.runFrom (op :: rest) = (run.step op).runFrom rest := rfl
      rw [hrun]
      cases op with
      | take =>
          have htake := creditOf_take run
          simp only [EndpointRun.reportsTaken, EndpointRun.readinesses]
          omega
      | ready =>
          have hle := creditOf_le (run.step .ready).endpoint
          simp only [EndpointRun.reportsTaken, EndpointRun.readinesses]
          omega
      | openBy | submit | close | failed | reset =>
          simp only [EndpointRun.reportsTaken, EndpointRun.readinesses]
          refine Nat.le_trans hrest (Nat.add_le_add_right (creditOf_step run ?_) _)
          simp

end Credit

-- While the endpoint is active, what was taken and what waits are the reports of the
-- accepted requests, one each and in their order, and move as far as these asked; a
-- request that is not accepted changes nothing; and each readiness lets out one report.
theorem fifo_exact (ops : List EndpointOp) :
    let run := EndpointRun.start.runFrom ops
    (run.endpoint.state = .active →
      run.taken ++ run.endpoint.queue = run.accepted.map Prod.snd ∧
        ∀ axis, ((run.taken ++ run.endpoint.queue).map (Report.moved · axis)).sum =
          (run.accepted.map fun entry => entry.1.moved axis).sum) ∧
      (∀ owner request, (run.endpoint.submit owner request).1 ≠ .accepted →
        (run.endpoint.submit owner request).2 = run.endpoint) ∧
      run.endpoint.queue.length ≤ queueCapacity ∧
      (∀ more, run.reportsTaken more + creditOf (run.runFrom more).endpoint ≤
        creditOf run.endpoint + EndpointRun.readinesses more) ∧
      (∀ report, run.endpoint.takeReport.1 = some report →
        run.endpoint.takeReport.2.retained = report) ∧
      ∀ op, op ≠ .take → op ≠ .reset →
        (run.step op).endpoint.retained = run.endpoint.retained := by
  intro run
  have hrun : Delivered run := Delivered.start.runFrom ops
  refine ⟨fun hactive => ⟨hrun.line hactive, fun axis => ?_⟩, fun owner request => submit_refused,
    hrun.room, reportsTaken_le run, fun report hreport => ?_, fun op => retained_step hrun⟩
  · rw [hrun.line hactive, List.map_map]
    refine congrArg List.sum (List.map_congr_left fun entry hentry => ?_)
    exact hrun.moved entry hentry axis
  · rcases takeReport_cases run.endpoint with heq | ⟨front, rest, _, _, _, heq⟩
    · rw [heq] at hreport
      simp at hreport
    · rw [heq] at hreport ⊢
      exact Option.some.inj hreport

end LibVirtualGamepad.KeyboardMouse
