import LibVirtualGamepad.Driver.KeyboardMouse
import LibVirtualGamepad.KeyboardMouse.Delivery

-- What the host last read of keys and buttons, and how a close leaves it with nothing
-- held.
namespace LibVirtualGamepad.KeyboardMouse

open Endpoint

-- The payload of the last report with the id, or what stands for a release.
def lastOf (id : UInt8) (released : List UInt8) (reports : List Report) : List UInt8 :=
  match reports.reverse.find? fun report => report.bytes.headD 0 == id with
  | some report => report.bytes.drop 1
  | none => released

structure HeldState where
  keys : List UInt8
  buttons : UInt8
  consumerButtons : UInt8

def HeldState.released : HeldState := ⟨List.replicate keyboardBytes 0, 0, 0⟩

-- What a host holds down that has read the reports.
def hostState (reports : List Report) : HeldState where
  keys := lastOf keyboardReportId HeldState.released.keys reports
  buttons := (lastOf relativeReportId [0] reports).headD 0
  consumerButtons := (lastOf consumerReportId [0] reports).headD 0

def Endpoint.heldState (endpoint : Endpoint) : HeldState :=
  ⟨endpoint.keys.toList, endpoint.buttons, endpoint.consumerButtons⟩

theorem lastOf_append_same {id : UInt8} {released : List UInt8} (reports : List Report)
    {report : Report} (h : report.bytes.headD 0 = id) :
    lastOf id released (reports ++ [report]) = report.bytes.drop 1 := by
  have hid : (report.bytes.headD 0 == id) = true := beq_iff_eq.mpr h
  simp only [lastOf, List.reverse_append, List.reverse_singleton, List.singleton_append,
    List.find?_cons, hid]

theorem lastOf_append_other {id : UInt8} {released : List UInt8} (reports : List Report)
    {report : Report} (h : report.bytes.headD 0 ≠ id) :
    lastOf id released (reports ++ [report]) = lastOf id released reports := by
  have hid : (report.bytes.headD 0 == id) = false := beq_eq_false_iff_ne.mpr h
  simp only [lastOf, List.reverse_append, List.reverse_singleton, List.singleton_append,
    List.find?_cons, hid]

section Reads

variable (reports : List Report) (endpoint : Endpoint)

theorem hostState_keyboard : hostState (reports ++ [endpoint.keyboardReport]) =
    { hostState reports with keys := endpoint.keys.toList } := by
  have hid : endpoint.keyboardReport.bytes.headD 0 = keyboardReportId := rfl
  simp only [hostState, lastOf_append_same reports hid,
    lastOf_append_other reports (show endpoint.keyboardReport.bytes.headD 0 ≠ relativeReportId by
      rw [hid]; decide),
    lastOf_append_other reports (show endpoint.keyboardReport.bytes.headD 0 ≠ consumerReportId by
      rw [hid]; decide)]
  rfl

theorem hostState_relative (x y : Int16) (wheel pan : Int8) :
    hostState (reports ++ [endpoint.relativeReport x y wheel pan]) =
      { hostState reports with buttons := endpoint.buttons } := by
  have hid : (endpoint.relativeReport x y wheel pan).bytes.headD 0 = relativeReportId := rfl
  simp only [hostState, lastOf_append_same reports hid,
    lastOf_append_other reports (show (endpoint.relativeReport x y wheel pan).bytes.headD 0 ≠
      keyboardReportId by rw [hid]; decide),
    lastOf_append_other reports (show (endpoint.relativeReport x y wheel pan).bytes.headD 0 ≠
      consumerReportId by rw [hid]; decide)]
  rfl

theorem hostState_consumer : hostState (reports ++ [endpoint.consumerReport]) =
    { hostState reports with consumerButtons := endpoint.consumerButtons } := by
  have hid : endpoint.consumerReport.bytes.headD 0 = consumerReportId := rfl
  simp only [hostState, lastOf_append_same reports hid,
    lastOf_append_other reports (show endpoint.consumerReport.bytes.headD 0 ≠ keyboardReportId by
      rw [hid]; decide),
    lastOf_append_other reports (show endpoint.consumerReport.bytes.headD 0 ≠ relativeReportId by
      rw [hid]; decide)]
  rfl

theorem hostState_absolute (request : AbsoluteRequest) :
    hostState (reports ++ [absoluteReport request]) = hostState reports := by
  have hid : (absoluteReport request).bytes.headD 0 = absoluteReportId := rfl
  simp only [hostState,
    lastOf_append_other reports (show (absoluteReport request).bytes.headD 0 ≠ keyboardReportId by
      rw [hid]; decide),
    lastOf_append_other reports (show (absoluteReport request).bytes.headD 0 ≠ relativeReportId by
      rw [hid]; decide),
    lastOf_append_other reports (show (absoluteReport request).bytes.headD 0 ≠ consumerReportId by
      rw [hid]; decide)]

-- The neutral reports release everything, whatever went before.
theorem hostState_neutral : hostState (reports ++ neutralReports) = .released := by
  let still : Endpoint := .reset
  have hneutral : neutralReports = [still.keyboardReport] ++ [still.relativeReport 0 0 0 0] ++
      [still.consumerReport] := by
    simp [neutralReports, still, Endpoint.keyboardReport, Endpoint.relativeReport,
      Endpoint.consumerReport, Endpoint.reset, Sc26Usb.leInt16, le16]
    decide
  rw [hneutral, ← List.append_assoc, ← List.append_assoc, hostState_consumer, hostState_relative,
    hostState_keyboard]
  simp [still, Endpoint.reset, HeldState.released]

-- A request's report tells the host what the endpoint then holds.
theorem hostState_reportOf (request : Request)
    (h : hostState reports = endpoint.heldState) :
    hostState (reports ++ [(endpoint.held request).reportOf request]) =
      (endpoint.held request).heldState := by
  cases request with
  | keyboard request =>
      simp only [reportOf, hostState_keyboard, h, held]
      split <;> rfl
  | consumer request =>
      simp only [reportOf, hostState_consumer, h, held]
      split <;> rfl
  | button request => simp only [reportOf, hostState_relative, h, held, heldState]
  | relative request => simp only [reportOf, hostState_relative, h, held, heldState]
  | absolute request => simp only [reportOf, hostState_absolute, h, held]

end Reads

def Lifecycle.running : Lifecycle → Prop
  | .active | .closing => True
  | .closed | .drained | .faulted => False

-- What the host has read, with what is still queued for it, is what the endpoint
-- holds; from a close on only the neutral reports go out.
structure Neutralizes (run : EndpointRun) : Prop where
  held : run.endpoint.state.running →
    hostState (run.taken ++ run.endpoint.queue) = run.endpoint.heldState
  closing : run.endpoint.state = .closing →
    run.takenClosing ++ run.endpoint.queue = neutralReports ∧
      run.endpoint.heldState = .released
  drained : run.endpoint.state = .drained →
    run.takenClosing = neutralReports ∧ run.endpoint.queue = [] ∧
      hostState run.taken = .released

namespace Neutralizes

variable {run : EndpointRun}

theorem start : Neutralizes .start where
  held := fun h => h.elim
  closing := fun h => by simp [EndpointRun.start, Endpoint.reset] at h
  drained := fun h => by simp [EndpointRun.start, Endpoint.reset] at h

theorem openBy (h : Neutralizes run) (owner : OwnerToken) (generation : UInt32) :
    Neutralizes (run.step (.openBy owner generation)) := by
  rcases openBy_cases run.endpoint owner generation with ⟨hno, hsame⟩ | ⟨_, hyes⟩
  · simp only [EndpointRun.step, hno, hsame, if_false]
    exact h
  · simp only [EndpointRun.step, hyes, if_true]
    refine ⟨fun _ => ?_, fun hclosing => by simp at hclosing, fun hdrained => by simp at hdrained⟩
    simp [Endpoint.reset, heldState, hostState, lastOf, HeldState.released]

theorem submit (h : Neutralizes run) (owner : OwnerToken) (request : Request) :
    Neutralizes (run.step (.submit owner request)) := by
  rcases submit_settles run.endpoint owner request with ⟨hno, hsame⟩ | ⟨_, hyes⟩
  · simp only [EndpointRun.step, hno, hsame, if_false]
    exact h
  · have hactive : run.endpoint.state = .active :=
      (@admission_of_accepted _ owner request (by rw [hyes])).1
    have hrunning : run.endpoint.state.running := by rw [hactive]; trivial
    simp only [EndpointRun.step, hyes, if_true]
    refine ⟨fun _ => ?_, fun hclosing => ?_, fun hdrained => ?_⟩
    · have hread := hostState_reportOf _ run.endpoint request (h.held hrunning)
      rw [List.append_assoc] at hread
      simp only [enqueue_queue, held_queue]
      exact hread
    · simp [hactive] at hclosing
    · simp [hactive] at hdrained

theorem ready (h : Neutralizes run) : Neutralizes (run.step .ready) := by
  rcases readyForReport_cases run.endpoint with ⟨_, _, heq⟩ | ⟨hclosing, hempty, heq⟩ | ⟨_, heq⟩
  · simp only [EndpointRun.step, heq]
    exact h
  · simp only [EndpointRun.step, heq]
    obtain ⟨hneutral, hreleased⟩ := h.closing hclosing
    have hheld := h.held (by rw [hclosing]; trivial)
    rw [hempty, List.append_nil] at hneutral hheld
    exact ⟨fun hrunning => hrunning.elim, fun hstate => by simp at hstate,
      fun _ => ⟨hneutral, hempty, hheld.trans hreleased⟩⟩
  · simp only [EndpointRun.step, heq]
    exact ⟨h.held, h.closing, h.drained⟩

theorem take (h : Neutralizes run) : Neutralizes (run.step .take) := by
  rcases takeReport_cases run.endpoint with htake | ⟨report, rest, hqueue, _, hstate, htake⟩
  · simp only [EndpointRun.step, htake, Option.toList_none, List.append_nil]
    exact h
  · have hmove : ∀ reports : List Report,
        reports ++ [report] ++ rest = reports ++ run.endpoint.queue := by
      intro reports
      rw [hqueue, List.append_assoc]
      rfl
    simp only [EndpointRun.step, htake, Option.toList_some]
    refine ⟨fun hrunning => ?_, fun hclosing => ?_, fun hdrained => ?_⟩
    · rw [hmove]
      exact h.held hrunning
    · rw [hmove]
      exact h.closing hclosing
    · have hdrained' : run.endpoint.state = .drained := hdrained
      simp [hdrained'] at hstate

theorem close (h : Neutralizes run) (owner : OwnerToken) :
    Neutralizes (run.step (.close owner)) := by
  rcases close_cases run.endpoint owner with ⟨hno, hsame⟩ | ⟨_, hyes⟩
  · simp only [EndpointRun.step, hno, hsame, if_false]
    exact h
  · simp only [EndpointRun.step, hyes, if_true]
    have hreleased : HeldState.released = ⟨(Vector.replicate keyboardBytes 0).toList, 0, 0⟩ := by
      simp [HeldState.released]
    refine ⟨fun _ => ?_, fun _ => ⟨rfl, hreleased.symm⟩, fun hdrained => by simp at hdrained⟩
    rw [hostState_neutral]
    exact hreleased

theorem failed (h : Neutralizes run) : Neutralizes (run.step .failed) := by
  simp only [EndpointRun.step, Endpoint.submissionFailed]
  split
  · exact h
  · exact ⟨fun hrunning => hrunning.elim, fun hclosing => by simp at hclosing,
      fun hdrained => by simp at hdrained⟩

theorem reset : Neutralizes (run.step .reset) :=
  ⟨fun hrunning => hrunning.elim, fun hclosing => by simp [EndpointRun.step, Endpoint.reset] at hclosing,
    fun hdrained => by simp [EndpointRun.step, Endpoint.reset] at hdrained⟩

theorem step (h : Neutralizes run) (op : EndpointOp) : Neutralizes (run.step op) := by
  cases op with
  | openBy owner generation => exact h.openBy owner generation
  | submit owner request => exact h.submit owner request
  | ready => exact h.ready
  | take => exact h.take
  | close owner => exact h.close owner
  | failed => exact h.failed
  | reset => exact reset

theorem runFrom (h : Neutralizes run) (ops : List EndpointOp) : Neutralizes (run.runFrom ops) := by
  induction ops generalizing run with
  | nil => exact h
  | cons op rest ih => exact ih (h.step op)

end Neutralizes

-- The ways out of a close: readiness with nothing left to send.
theorem drained_step {run : EndpointRun} {op : EndpointOp} (hbefore : run.endpoint.state ≠ .drained)
    (hafter : (run.step op).endpoint.state = .drained) :
    op = .ready ∧ run.endpoint.state = .closing ∧ run.endpoint.queue = [] := by
  cases op with
  | openBy owner generation =>
      rcases openBy_cases run.endpoint owner generation with ⟨hno, hsame⟩ | ⟨_, hyes⟩
      · simp only [EndpointRun.step, hno, hsame, if_false] at hafter
        exact absurd hafter hbefore
      · simp [EndpointRun.step, hyes] at hafter
  | submit owner request =>
      rcases submit_settles run.endpoint owner request with ⟨_, hsame⟩ | ⟨_, hyes⟩
      · simp only [EndpointRun.step, hsame] at hafter
        exact absurd hafter hbefore
      · simp only [EndpointRun.step, hyes, enqueue_state, held_state] at hafter
        exact absurd hafter hbefore
  | ready =>
      rcases readyForReport_cases run.endpoint with ⟨_, _, heq⟩ | ⟨hclosing, hempty, _⟩ | ⟨_, heq⟩
      · simp only [EndpointRun.step, heq] at hafter
        exact absurd hafter hbefore
      · exact ⟨rfl, hclosing, hempty⟩
      · simp only [EndpointRun.step, heq] at hafter
        exact absurd hafter hbefore
  | take =>
      rcases takeReport_cases run.endpoint with heq | ⟨report, rest, _, _, _, heq⟩ <;>
        simp only [EndpointRun.step, heq] at hafter <;> exact absurd hafter hbefore
  | close owner =>
      rcases close_cases run.endpoint owner with ⟨_, hsame⟩ | ⟨_, hyes⟩
      · simp only [EndpointRun.step, hsame] at hafter
        exact absurd hafter hbefore
      · simp [EndpointRun.step, hyes] at hafter
  | failed =>
      simp only [EndpointRun.step, submissionFailed] at hafter
      split at hafter
      · exact absurd hafter hbefore
      · simp at hafter
  | reset => simp [EndpointRun.step, Endpoint.reset] at hafter

-- Neither a failure nor a reset breaks the close off.
def EndpointOp.undisturbed : EndpointOp → Prop
  | .failed | .reset => False
  | _ => True

-- The readinesses and takes that drain `n` reports; the last readiness retires them.
def drainPattern : Nat → List EndpointOp
  | 0 => [.ready]
  | n + 1 => .ready :: .take :: drainPattern n

-- Of the undisturbed operations only these two do anything to a closing endpoint.
theorem closing_unchanged {run : EndpointRun} (hclosing : run.endpoint.state = .closing)
    {op : EndpointOp} (hop : op.undisturbed) :
    op = .ready ∨ op = .take ∨
      (op ≠ .ready ∧ op ≠ .take ∧ (run.step op).endpoint = run.endpoint) := by
  cases op with
  | openBy owner generation =>
      rcases openBy_cases run.endpoint owner generation with ⟨hno, hsame⟩ | ⟨hclosed, _⟩
      · exact .inr (.inr ⟨by simp, by simp, by simp only [EndpointRun.step, hno, hsame, if_false]⟩)
      · simp [hclosing] at hclosed
  | submit owner request =>
      have hno : (run.endpoint.submit owner request).1 ≠ .accepted := by
        intro haccepted
        have hactive := (admission_of_accepted haccepted).1
        simp [hclosing] at hactive
      exact .inr (.inr ⟨by simp, by simp, by simp only [EndpointRun.step, submit_refused hno]⟩)
  | ready => exact .inl rfl
  | take => exact .inr (.inl rfl)
  | close owner =>
      rcases close_cases run.endpoint owner with ⟨_, hsame⟩ | ⟨hactive, _⟩
      · exact .inr (.inr ⟨by simp, by simp, by simp only [EndpointRun.step, hsame]⟩)
      · simp [hclosing] at hactive
  | failed => exact hop.elim
  | reset => exact hop.elim

theorem drained_stays {run : EndpointRun} (hdrained : run.endpoint.state = .drained)
    {op : EndpointOp} (hop : op.undisturbed) : (run.step op).endpoint.state = .drained := by
  cases op with
  | openBy owner generation =>
      rcases openBy_cases run.endpoint owner generation with ⟨hno, hsame⟩ | ⟨hclosed, _⟩
      · simp only [EndpointRun.step, hno, hsame, if_false, hdrained]
      · simp [hdrained] at hclosed
  | submit owner request =>
      rcases submit_settles run.endpoint owner request with ⟨_, hsame⟩ | ⟨_, hyes⟩
      · simp only [EndpointRun.step, hsame, hdrained]
      · simp only [EndpointRun.step, hyes, enqueue_state, held_state, hdrained]
  | ready =>
      rcases readyForReport_cases run.endpoint with ⟨_, _, heq⟩ | ⟨hclosing, _, _⟩ | ⟨hstate, _⟩
      · simp only [EndpointRun.step, heq, hdrained]
      · simp [hdrained] at hclosing
      · simp [hdrained] at hstate
  | take =>
      rcases takeReport_cases run.endpoint with heq | ⟨report, rest, _, _, hstate, _⟩
      · simp only [EndpointRun.step, heq, hdrained]
      · simp [hdrained] at hstate
  | close owner =>
      rcases close_cases run.endpoint owner with ⟨_, hsame⟩ | ⟨hactive, _⟩
      · simp only [EndpointRun.step, hsame, hdrained]
      · simp [hdrained] at hactive
  | failed => exact hop.elim
  | reset => exact hop.elim

theorem drained_runFrom {run : EndpointRun} (hdrained : run.endpoint.state = .drained)
    {ops : List EndpointOp} (hops : ∀ op ∈ ops, op.undisturbed) :
    (run.runFrom ops).endpoint.state = .drained := by
  induction ops generalizing run with
  | nil => exact hdrained
  | cons op rest ih =>
      exact ih (drained_stays hdrained (hops op (by simp))) fun o ho => hops o (by simp [ho])

theorem sublist_of_ne {a b : EndpointOp} {xs ys : List EndpointOp} (hne : a ≠ b)
    (h : (a :: xs).Sublist (b :: ys)) : (a :: xs).Sublist ys := by
  rcases List.sublist_cons_iff.mp h with hskip | ⟨rest, hhead, _⟩
  · exact hskip
  · exact absurd (List.cons.inj hhead).1 hne

theorem drainPattern_skip {op : EndpointOp} (hop : op ≠ .ready) (n : Nat) {ops : List EndpointOp}
    (h : (drainPattern n).Sublist (op :: ops)) : (drainPattern n).Sublist ops := by
  cases n with
  | zero => exact sublist_of_ne hop.symm h
  | succ n => exact sublist_of_ne hop.symm h

-- A closing endpoint that waits for readiness, or has its credit and waits for a take,
-- is drained by what is left of the pattern, whatever else comes in between.
theorem drained_of_pattern (ops : List EndpointOp) (hops : ∀ op ∈ ops, op.undisturbed) :
    ∀ (run : EndpointRun) (n : Nat), run.endpoint.state = .closing →
      (run.endpoint.queue.length ≤ n → (drainPattern n).Sublist ops →
        (run.runFrom ops).endpoint.state = .drained) ∧
      (run.endpoint.credit = true → run.endpoint.queue.length ≤ n + 1 →
        (EndpointOp.take :: drainPattern n).Sublist ops →
        (run.runFrom ops).endpoint.state = .drained) := by
  induction ops with
  | nil =>
      intro run n _
      refine ⟨fun _ hpattern => ?_, fun _ _ hpattern => ?_⟩
      · cases n <;> simp [drainPattern] at hpattern
      · simp at hpattern
  | cons op rest ih =>
      intro run n hclosing
      have hrest : ∀ o ∈ rest, o.undisturbed := fun o ho => hops o (by simp [ho])
      have hrun : run.runFrom (op :: rest) = (run.step op).runFrom rest := rfl
      have ih' := ih hrest (run.step op)
      rw [hrun]
      rcases closing_unchanged hclosing (hops op (by simp)) with rfl | rfl | ⟨hready, htake, hsame⟩
      · -- Readiness ends the close or grants the credit.
        rcases readyForReport_cases run.endpoint with ⟨_, hno, _⟩ | ⟨_, _, heq⟩ | ⟨hstate, heq⟩
        · exact absurd hclosing hno
        · have hdrained : (run.step .ready).endpoint.state = .drained := by
            simp only [EndpointRun.step, heq]
          exact ⟨fun _ _ => drained_runFrom hdrained hrest,
            fun _ _ _ => drained_runFrom hdrained hrest⟩
        · have hfull : run.endpoint.queue ≠ [] := by
            rcases hstate with hactive | ⟨_, hne⟩
            · simp [hclosing] at hactive
            · exact hne
          have hpos : 0 < run.endpoint.queue.length := List.length_pos_of_ne_nil hfull
          have hstep : (run.step .ready).endpoint = { run.endpoint with credit := true } := by
            simp only [EndpointRun.step, heq]
          have hclosing' : (run.step .ready).endpoint.state = .closing := by
            rw [hstep]
            exact hclosing
          refine ⟨fun hlen hpattern => ?_, fun _ hlen hpattern => ?_⟩
          · cases n with
            | zero => omega
            | succ n =>
                exact (ih' n hclosing').2 (by rw [hstep]) (by rw [hstep]; exact hlen)
                  (List.Sublist.of_cons_cons hpattern)
          · exact (ih' n hclosing').2 (by rw [hstep]) (by rw [hstep]; exact hlen)
              (sublist_of_ne (by simp) hpattern)
      · -- A take lets a report out, or there is none.
        have hqueue : (run.step .take).endpoint.state = .closing ∧
            (run.step .take).endpoint.queue.length ≤ run.endpoint.queue.length ∧
            (run.endpoint.credit = true → (run.step .take).endpoint.queue.length ≤
              run.endpoint.queue.length - 1) := by
          rcases takeReport_cases run.endpoint with heq | ⟨report, left, hqueue, _, _, heq⟩
          · have hstep : (run.step .take).endpoint = run.endpoint := by
              simp only [EndpointRun.step, heq]
            rw [hstep]
            refine ⟨hclosing, Nat.le_refl _, fun hcredit => ?_⟩
            cases hq : run.endpoint.queue with
            | nil => simp
            | cons report left =>
                simp [takeReport, hq, hcredit, hclosing] at heq
          · simp only [EndpointRun.step, heq, hqueue, List.length_cons]
            exact ⟨hclosing, by omega, fun _ => by omega⟩
        obtain ⟨hclosing', hle, hcredited⟩ := hqueue
        refine ⟨fun hlen hpattern => ?_, fun hcredit hlen hpattern => ?_⟩
        · exact (ih' n hclosing').1 (by omega) (drainPattern_skip (by simp) n hpattern)
        · have hless := hcredited hcredit
          exact (ih' n hclosing').1 (by omega) (List.Sublist.of_cons_cons hpattern)
      · have hclosing' : (run.step op).endpoint.state = .closing := by rw [hsame, hclosing]
        refine ⟨fun hlen hpattern => ?_, fun hcredit hlen hpattern => ?_⟩
        · exact (ih' n hclosing').1 (by rw [hsame]; exact hlen) (drainPattern_skip hready n hpattern)
        · exact (ih' n hclosing').2 (by rw [hsame]; exact hcredit) (by rw [hsame]; exact hlen)
            (sublist_of_ne htake.symm hpattern)

def Lifecycle.winding : Lifecycle → Prop
  | .closing | .drained | .faulted => True
  | .closed | .active => False

theorem winding_refuses {endpoint : Endpoint} (h : endpoint.state.winding) (owner : OwnerToken)
    (request : Request) : (endpoint.submit owner request).1 ≠ .accepted := by
  intro haccepted
  rw [(admission_of_accepted haccepted).1] at h
  exact h

-- What is closing, drained or faulted stays so until the reset.
theorem winding_step {run : EndpointRun} (h : run.endpoint.state.winding) {op : EndpointOp}
    (hop : op ≠ .reset) : (run.step op).endpoint.state.winding := by
  cases op with
  | openBy owner generation =>
      rcases openBy_cases run.endpoint owner generation with ⟨hno, hsame⟩ | ⟨hclosed, _⟩
      · simp only [EndpointRun.step, hno, hsame, if_false]
        exact h
      · rw [hclosed] at h
        exact h.elim
  | submit owner request =>
      simp only [EndpointRun.step, submit_refused (winding_refuses h owner request)]
      exact h
  | ready =>
      rcases readyForReport_cases run.endpoint with ⟨_, _, heq⟩ | ⟨_, _, heq⟩ | ⟨_, heq⟩
      · simp only [EndpointRun.step, heq]
        exact h
      · simp only [EndpointRun.step, heq]
        trivial
      · simp only [EndpointRun.step, heq]
        exact h
  | take =>
      rcases takeReport_cases run.endpoint with heq | ⟨report, rest, _, _, _, heq⟩ <;>
        simp only [EndpointRun.step, heq] <;> exact h
  | close owner =>
      rcases close_cases run.endpoint owner with ⟨_, hsame⟩ | ⟨hactive, _⟩
      · simp only [EndpointRun.step, hsame]
        exact h
      · rw [hactive] at h
        exact h.elim
  | failed =>
      simp only [EndpointRun.step, submissionFailed]
      split
      · exact h
      · trivial
  | reset => exact absurd rfl hop

theorem winding_runFrom {run : EndpointRun} (h : run.endpoint.state.winding)
    {ops : List EndpointOp} (hops : EndpointOp.reset ∉ ops) :
    (run.runFrom ops).endpoint.state.winding := by
  induction ops generalizing run with
  | nil => exact h
  | cons op rest ih =>
      have hne : op ≠ .reset := fun heq => hops (by simp [heq])
      exact ih (winding_step h hne) fun hmem => hops (by simp [hmem])

-- A close request is answered with success in the drained state alone: otherwise it is
-- refused, or its answer is what closeAnswer makes of it.
theorem close_answers (d : Device) (regs : Registers) (choice : Choice) (owner : File)
    {o : Effect} (hexec : KeyboardMouseAct.exec d regs choice (.close owner) = some o)
    (hstate : d.keyboardMouse.core.state ≠ .drained) :
    (o.regs.status.ok = false ∧ (o.next = [.unlockLifetime] ∨
      o.next = deleteStoppedKeyboardMouse false ++ [.unlockLifetime])) ∨
      o.next = [.unlockLifetime, .keyboardMouse (.pumpEnter none), .keyboardMouse .closeAnswer] := by
  simp only [KeyboardMouseAct.exec] at hexec
  split at hexec
  · cases hexec
    exact .inl ⟨rfl, .inl rfl⟩
  · split at hexec
    · cases hexec
      exact .inl ⟨rfl, .inl rfl⟩
    · split at hexec
      · cases hexec
        exact .inl ⟨rfl, .inl rfl⟩
      · split at hexec
        · cases hexec
          exact .inl ⟨rfl, .inr rfl⟩
        · cases hexec
          cases hok : (d.keyboardMouse.core.close (some owner)).1.toStatus.ok with
          | true => exact .inr (by simp [Device.effect])
          | false => exact .inl ⟨hok, .inl (by simp [Device.effect])⟩

theorem closeAnswer_fails (d : Device) (regs : Registers) (choice : Choice) {o : Effect}
    (hexec : KeyboardMouseAct.exec d regs choice .closeAnswer = some o) :
    o.regs.status.ok = false ∧ o.next = [] := by
  cases hexec
  cases hok : regs.status.ok with
  | true => exact ⟨by simp [Device.effect, Registers.fail, NtStatus.ok], rfl⟩
  | false => exact ⟨by simp [Device.effect, hok], rfl⟩

-- In every run, what the host has read and is about to read is what the endpoint holds;
-- a close leaves only neutral reports to go, which readiness and takes drain, and the
-- host with nothing held.
theorem close_releases (ops : List EndpointOp) :
    let run := EndpointRun.start.runFrom ops
    (run.endpoint.state.running →
      hostState (run.taken ++ run.endpoint.queue) = run.endpoint.heldState) ∧
      (run.endpoint.state = .closing → run.takenClosing ++ run.endpoint.queue = neutralReports) ∧
      (∀ op, run.endpoint.state ≠ .drained → (run.step op).endpoint.state = .drained →
        op = .ready ∧ run.takenClosing = neutralReports ∧ run.endpoint.queue = []) ∧
      (run.endpoint.state = .closing → ∀ more : List EndpointOp,
        (∀ op ∈ more, op ≠ .failed ∧ op ≠ .reset) →
        [EndpointOp.ready, .take, .ready, .take, .ready, .take, .ready].Sublist more →
        (run.runFrom more).endpoint.state = .drained) ∧
      (run.endpoint.state = .drained → hostState run.taken = .released) ∧
      (∀ (d : Device) (regs : Registers) (choice : Choice),
        d.keyboardMouse.core.state ≠ .drained →
        ∀ owner o, KeyboardMouseAct.exec d regs choice (.close owner) = some o →
          (o.regs.status.ok = false ∧ (o.next = [.unlockLifetime] ∨
            o.next = deleteStoppedKeyboardMouse false ++ [.unlockLifetime])) ∨
            o.next = [.unlockLifetime, .keyboardMouse (.pumpEnter none),
              .keyboardMouse .closeAnswer]) ∧
      (∀ (d : Device) (regs : Registers) (choice : Choice) (o : Effect),
        KeyboardMouseAct.exec d regs choice .closeAnswer = some o →
        o.regs.status.ok = false ∧ o.next = []) ∧
      (run.endpoint.state = .closing ∨ run.endpoint.state = .drained ∨
          run.endpoint.state = .faulted →
        ∀ more : List EndpointOp, EndpointOp.reset ∉ more → ∀ owner request,
          ((run.runFrom more).endpoint.submit owner request).1 ≠ .accepted ∧
            ((run.runFrom more).endpoint.submit owner request).2 = (run.runFrom more).endpoint) := by
  intro run
  have hrun : Neutralizes run := Neutralizes.start.runFrom ops
  refine ⟨hrun.held, fun hclosing => (hrun.closing hclosing).1, fun op hbefore hafter => ?_,
    fun hclosing more hmore hpattern => ?_, fun hdrained => (hrun.drained hdrained).2.2,
    fun d regs choice hstate owner o hexec => close_answers d regs choice owner hexec hstate,
    fun d regs choice o hexec => closeAnswer_fails d regs choice hexec,
    fun hstate more hmore owner request => ?_⟩
  · obtain ⟨hop, hclosing, hempty⟩ := drained_step hbefore hafter
    have hneutral := (hrun.closing hclosing).1
    rw [hempty, List.append_nil] at hneutral
    exact ⟨hop, hneutral, hempty⟩
  · have hundisturbed : ∀ op ∈ more, op.undisturbed := by
      intro op hop
      obtain ⟨hfailed, hreset⟩ := hmore op hop
      cases op with
      | failed => exact absurd rfl hfailed
      | reset => exact absurd rfl hreset
      | openBy | submit | ready | take | close => trivial
    have hlen : run.endpoint.queue.length ≤ 3 := by
      have hneutral := congrArg List.length (hrun.closing hclosing).1
      have hthree : neutralReports.length = 3 := rfl
      rw [List.length_append, hthree] at hneutral
      omega
    exact (drained_of_pattern more hundisturbed run 3 hclosing).1 hlen hpattern
  · have hwinding : run.endpoint.state.winding := by
      rcases hstate with h | h | h <;> rw [h] <;> trivial
    have hrefused := winding_refuses (winding_runFrom hwinding hmore) owner request
    exact ⟨hrefused, submit_refused hrefused⟩

end LibVirtualGamepad.KeyboardMouse
