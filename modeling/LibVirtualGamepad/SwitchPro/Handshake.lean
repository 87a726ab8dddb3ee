import LibVirtualGamepad.SwitchPro
import LibVirtualGamepad.ReportPump.Refinement

namespace LibVirtualGamepad.SwitchPro

open ReportPump

-- A report that left the pump, with the number of the call that had queued it.
structure Departure where
  stamp : Nat
  report : ReportBuffer
  kind : ReportKind

-- What waits in the pump and what left it, every report with the number of the
-- call that queued it. Whatever waited before the record began has the number zero.
structure Ledger where
  lines : Queues (Nat × ReportBuffer)
  calls : Nat
  taken : List Departure

namespace Ledger

def start (pump : ReportPump) : Ledger :=
  ⟨pump.queues.map fun report => (0, report), 0, []⟩

def call (ledger : Ledger) (report : ReportBuffer) (kind : ReportKind) : Ledger :=
  { ledger with
    lines := ledger.lines.enqueue (ledger.calls + 1, report) kind
    calls := ledger.calls + 1 }

def depart (ledger : Ledger) : Ledger :=
  match ledger.lines.take with
  | (none, lines) => { ledger with lines := lines }
  | (some ((stamp, report), kind), lines) =>
    { ledger with lines := lines, taken := ledger.taken ++ [⟨stamp, report, kind⟩] }

end Ledger

structure PumpCall where
  bytes : List UInt8
  reportId : UInt8
  kind : ReportKind

def PumpCall.enqueue (call : PumpCall) (pump : ReportPump) : ReportPump :=
  (pump.enqueue (some call.bytes) call.reportId call.kind).2

def Ledger.record (ledger : Ledger) (calls : List PumpCall) : Ledger :=
  calls.foldl (fun ledger call => ledger.call (.store call.bytes call.reportId) call.kind) ledger

-- The calls of the pump that a subcommand makes.
def replyCalls (report : Option (List UInt8)) (lastInput : InputStateRequest)
    (state : SwitchState) (pump : ReportPump) : List PumpCall :=
  match handleSwitchSubcommand report lastInput state with
  | (none, _) => []
  | (some reply, state) =>
    ⟨reply.bytes, subcommandReplyId, .priority⟩ ::
      (if pump.priority.length < priorityCapacity ∧
          asksForInput reply (report.getD []) = true then
        [⟨(encodeSwitchInput lastInput state).1.bytes, inputReportId, .continuous⟩]
      else [])

def usbCalls (report : Option (List UInt8)) (state : SwitchState) : List PumpCall :=
  match (handleSwitchUsbCommand report state).1 with
  | none => []
  | some reply => [⟨reply, usbReplyId, .priority⟩]

-- A slot with the reports its pump has handed out and the record of it.
structure SwitchRun where
  lastInput : InputStateRequest
  state : SwitchState
  pump : ReportPump
  sent : List ReportBuffer
  ledger : Ledger

-- An input, a motion sample or a battery level changes what replies carry; its
-- report is queued in a section of its own, with whatever it was encoded from.
inductive SwitchOp where
  | update (lastInput : InputStateRequest) (state : SwitchState)
  | stateReport (input : InputStateRequest) (state : SwitchState) (discrete : Bool)
  | subcommand (report : Option (List UInt8))
  | usbCommand (report : Option (List UInt8))
  | setReady
  | take

def stateCall (input : InputStateRequest) (state : SwitchState) (discrete : Bool) : PumpCall where
  bytes := (encodeSwitchInput input state).1.bytes
  reportId := inputReportId
  kind := if discrete then .transition else .continuous

namespace SwitchRun

def start (lastInput : InputStateRequest) (state : SwitchState) (pump : ReportPump) : SwitchRun :=
  ⟨lastInput, state, pump, [], .start pump⟩

def step (run : SwitchRun) : SwitchOp → SwitchRun
  | .update lastInput state => { run with lastInput := lastInput, state := state }
  | .stateReport input state discrete =>
    let call := stateCall input state discrete
    { run with pump := call.enqueue run.pump, ledger := run.ledger.record [call] }
  | .subcommand report =>
    let (_, state, pump) := queueSwitchSubcommandReply report run.lastInput run.state run.pump
    { run with
      state := state
      pump := pump
      ledger := run.ledger.record (replyCalls report run.lastInput run.state run.pump) }
  | .usbCommand report =>
    { run with
      state := (handleSwitchUsbCommand report run.state).2
      pump := (usbCalls report run.state).foldl (fun pump call => call.enqueue pump) run.pump
      ledger := run.ledger.record (usbCalls report run.state) }
  | .setReady => { run with pump := run.pump.setReady }
  | .take =>
    match run.pump.take with
    | (none, pump) => { run with pump := pump }
    | (some report, pump) =>
      { run with pump := pump, sent := run.sent ++ [report], ledger := run.ledger.depart }

def runFrom (run : SwitchRun) (ops : List SwitchOp) : SwitchRun := ops.foldl step run

end SwitchRun

-- Readiness and a take, so many times.
def drain (rounds : Nat) : List SwitchOp :=
  (List.replicate rounds [SwitchOp.setReady, SwitchOp.take]).flatten

-- The pump holds and has handed out what the record says.
structure SwitchRun.Recorded (run : SwitchRun) : Prop where
  queues : run.pump.queues = run.ledger.lines.map Prod.snd
  sent : run.sent = run.ledger.taken.map Departure.report

theorem enqueue_priority (pump : ReportPump) (bytes : List UInt8) (reportId : UInt8)
    (hbytes : bytes ≠ []) :
    pump.enqueue (some bytes) reportId .priority =
      if priorityCapacity ≤ pump.priority.length then (false, pump)
      else (true, { pump with priority := pump.priority ++ [.store bytes reportId] }) := by
  cases bytes with
  | nil => exact absurd rfl hbytes
  | cons byte bytes => rfl

theorem reply_bytes_ne (reply : SwitchSubcommandReply) : reply.bytes ≠ [] := by
  simp [SwitchSubcommandReply.bytes]

theorem input_bytes_ne (report : SwitchInputReport) : report.bytes ≠ [] := by
  simp [SwitchInputReport.bytes]

theorem queueSwitchSubcommandReply_pump (report : Option (List UInt8))
    (lastInput : InputStateRequest) (state : SwitchState) (pump : ReportPump) :
    (queueSwitchSubcommandReply report lastInput state pump).2.2 =
      (replyCalls report lastInput state pump).foldl (fun pump call => call.enqueue pump) pump := by
  unfold queueSwitchSubcommandReply replyCalls
  rcases handleSwitchSubcommand report lastInput state with ⟨_ | reply, after⟩
  · rfl
  · have henqueue := enqueue_priority pump reply.bytes subcommandReplyId (reply_bytes_ne reply)
    by_cases hfull : priorityCapacity ≤ pump.priority.length
    · rw [if_pos hfull] at henqueue
      have hnot : ¬pump.priority.length < priorityCapacity := by omega
      simp only [henqueue, hnot, false_and, if_false, List.foldl_cons, List.foldl_nil,
        PumpCall.enqueue]
    · rw [if_neg hfull] at henqueue
      have hroom : pump.priority.length < priorityCapacity := by omega
      by_cases hasks : asksForInput reply (report.getD []) = true
      · simp only [henqueue, hasks, hroom, true_and, if_true, List.foldl_cons, List.foldl_nil,
          PumpCall.enqueue]
      · simp only [henqueue, hasks, hroom, true_and, if_false, List.foldl_cons, List.foldl_nil,
          PumpCall.enqueue, Bool.false_eq_true]

theorem replyCalls_ne (report : Option (List UInt8)) (lastInput : InputStateRequest)
    (state : SwitchState) (pump : ReportPump) :
    ∀ call ∈ replyCalls report lastInput state pump, call.bytes ≠ [] := by
  unfold replyCalls
  rcases handleSwitchSubcommand report lastInput state with ⟨_ | reply, after⟩
  · exact List.forall_mem_nil _
  · intro call hcall
    rcases List.mem_cons.mp hcall with rfl | hcall
    · exact reply_bytes_ne reply
    · split at hcall
      · rw [List.mem_singleton.mp hcall]
        exact input_bytes_ne _
      · cases hcall

theorem usbReply_ne {report : Option (List UInt8)} {state : SwitchState} {reply : List UInt8}
    (h : (handleSwitchUsbCommand report state).1 = some reply) : reply ≠ [] := by
  have hreply : ∀ subtype data, some ([usbReplyId, subtype] ++ padded 62 data) = some reply →
      reply ≠ [] := by
    intro subtype data heq
    rw [← Option.some_inj.mp heq]
    exact List.cons_ne_nil _ _
  unfold handleSwitchUsbCommand at h
  split at h
  · dsimp only at h
    split at h
    · cases h
    · split at h
      · exact hreply _ _ h
      · split at h
        · exact hreply _ _ h
        · split at h
          · exact hreply _ _ h
          · cases h
  · cases h

theorem usbCalls_ne (report : Option (List UInt8)) (state : SwitchState) :
    ∀ call ∈ usbCalls report state, call.bytes ≠ [] := by
  unfold usbCalls
  cases hreply : (handleSwitchUsbCommand report state).1 with
  | none => exact List.forall_mem_nil _
  | some reply =>
      intro call hcall
      rw [List.mem_singleton.mp hcall]
      exact usbReply_ne hreply

-- A call of the pump and its record.
theorem queues_call (pump : ReportPump) (ledger : Ledger) (call : PumpCall)
    (hbytes : call.bytes ≠ []) (h : pump.queues = ledger.lines.map Prod.snd) :
    (call.enqueue pump).queues =
      (ledger.call (.store call.bytes call.reportId) call.kind).lines.map Prod.snd := by
  obtain ⟨bytes, reportId, kind⟩ := call
  cases bytes with
  | nil => exact absurd rfl hbytes
  | cons byte bytes =>
      calc (pump.enqueue (some (byte :: bytes)) reportId kind).2.queues
          = pump.queues.enqueue (.store (byte :: bytes) reportId) kind :=
            queues_enqueue pump byte bytes reportId kind
        _ = (ledger.lines.enqueue (ledger.calls + 1, .store (byte :: bytes) reportId)
              kind).map Prod.snd := by
            rw [h]
            exact Queues.map_enqueue Prod.snd ledger.lines
              (ledger.calls + 1, .store (byte :: bytes) reportId) kind

theorem queues_calls (pump : ReportPump) (ledger : Ledger) (calls : List PumpCall)
    (hbytes : ∀ call ∈ calls, call.bytes ≠ []) (h : pump.queues = ledger.lines.map Prod.snd) :
    (calls.foldl (fun pump call => call.enqueue pump) pump).queues =
      (ledger.record calls).lines.map Prod.snd := by
  induction calls generalizing pump ledger with
  | nil => exact h
  | cons call calls ih =>
      obtain ⟨hcall, hcalls⟩ := List.forall_mem_cons.mp hbytes
      exact ih _ _ hcalls (queues_call pump ledger call hcall h)

-- A take hands out what the record says leaves, or nothing leaves either.
theorem take_recorded (pump : ReportPump) (ledger : Ledger)
    (h : pump.queues = ledger.lines.map Prod.snd) :
    (pump.take.1 = none ∧ pump.take.2.queues = ledger.lines.map Prod.snd) ∨
      ∃ stamp report kind, pump.take.1 = some report ∧
        ledger.lines.take.1 = some ((stamp, report), kind) ∧
        pump.take.2.queues = ledger.lines.take.2.map Prod.snd := by
  cases hready : pump.ready with
  | false =>
      rw [take_not_ready pump hready]
      exact Or.inl ⟨rfl, h⟩
  | true =>
      obtain ⟨hout, hqueues⟩ := queues_take pump hready
      rw [h, Queues.map_take] at hout hqueues
      cases htake : ledger.lines.take.1 with
      | none =>
          refine Or.inl ⟨by simpa [htake] using hout, ?_⟩
          rw [hqueues, ledger.lines.take_none htake]
      | some entry =>
          obtain ⟨⟨stamp, report⟩, kind⟩ := entry
          exact Or.inr ⟨stamp, report, kind, by simpa [htake] using hout, rfl, hqueues⟩

theorem depart_some (ledger : Ledger) {stamp : Nat} {report : ReportBuffer} {kind : ReportKind}
    (h : ledger.lines.take.1 = some ((stamp, report), kind)) :
    ledger.depart =
      { ledger with
        lines := ledger.lines.take.2
        taken := ledger.taken ++ [⟨stamp, report, kind⟩] } := by
  unfold Ledger.depart
  rcases htake : ledger.lines.take with ⟨out, lines⟩
  rw [htake] at h
  dsimp only at h
  rw [h]

theorem record_taken (ledger : Ledger) (calls : List PumpCall) :
    (ledger.record calls).taken = ledger.taken := by
  induction calls generalizing ledger with
  | nil => rfl
  | cons call calls ih => exact ih _

theorem step_recorded (run : SwitchRun) (op : SwitchOp) (h : run.Recorded) :
    (run.step op).Recorded := by
  obtain ⟨hqueues, hsent⟩ := h
  cases op with
  | update => exact ⟨hqueues, hsent⟩
  | stateReport input state discrete =>
      exact ⟨queues_call run.pump run.ledger (stateCall input state discrete) (input_bytes_ne _)
        hqueues, hsent⟩
  | subcommand report =>
      have hpump := queueSwitchSubcommandReply_pump report run.lastInput run.state run.pump
      have hcalls := queues_calls run.pump run.ledger _
        (replyCalls_ne report run.lastInput run.state run.pump) hqueues
      refine ⟨?_, hsent.trans (congrArg _ (record_taken _ _).symm)⟩
      calc (run.step (.subcommand report)).pump.queues
          = (queueSwitchSubcommandReply report run.lastInput run.state run.pump).2.2.queues := rfl
        _ = _ := by
            rw [hpump]
            exact hcalls
  | usbCommand report =>
      exact ⟨queues_calls run.pump run.ledger _ (usbCalls_ne report run.state) hqueues,
        hsent.trans (congrArg _ (record_taken _ _).symm)⟩
  | setReady => exact ⟨hqueues, hsent⟩
  | take =>
      unfold SwitchRun.step
      rcases take_recorded run.pump run.ledger hqueues with ⟨hnone, hsame⟩ |
        ⟨stamp, report, kind, hsome, hout, hafter⟩
      · rcases htake : run.pump.take with ⟨out, pump⟩
        rw [htake] at hnone hsame
        dsimp only at hnone
        rw [hnone]
        exact ⟨hsame, hsent⟩
      · rcases htake : run.pump.take with ⟨out, pump⟩
        rw [htake] at hsome hafter
        dsimp only at hsome
        rw [hsome]
        dsimp only
        rw [depart_some run.ledger hout]
        exact ⟨hafter, by simp [hsent]⟩

namespace Ledger

-- The calls whose replies left or wait, in the order of leaving.
def replyStamps (ledger : Ledger) : List Nat :=
  (ledger.taken.filter fun departure => departure.kind = .priority).map Departure.stamp ++
    ledger.lines.priority.map Prod.fst

-- Replies leave in the order of their calls, behind those that waited before.
structure InOrder (ledger : Ledger) : Prop where
  ordered : ledger.replyStamps.Pairwise fun first second => first = 0 ∨ first < second
  counted : ∀ stamp ∈ ledger.replyStamps, stamp ≤ ledger.calls

theorem start_inOrder (pump : ReportPump) : (start pump).InOrder := by
  have hzero : ∀ stamp ∈ (start pump).replyStamps, stamp = 0 := by
    simp [start, replyStamps, Queues.map]
  refine ⟨?_, ?_⟩
  · apply List.Pairwise.imp_of_mem (R := fun _ _ => True)
    · intro first second hfirst _ _
      exact Or.inl (hzero first hfirst)
    · exact List.pairwise_of_forall fun _ _ => trivial
  · intro stamp hstamp
    rw [hzero stamp hstamp]
    exact Nat.zero_le _

-- A call adds its own reply behind the others, or none.
theorem replyStamps_call (ledger : Ledger) (report : ReportBuffer) (kind : ReportKind) :
    (ledger.call report kind).replyStamps = ledger.replyStamps ∨
      (ledger.call report kind).replyStamps = ledger.replyStamps ++ [ledger.calls + 1] := by
  unfold replyStamps call
  cases kind with
  | priority =>
      simp only [Queues.enqueue]
      split
      · exact Or.inl rfl
      · right
        simp
  | transition => exact Or.inl rfl
  | aside =>
      left
      simp only [Queues.enqueue]
      split <;> rfl
  | continuous => exact Or.inl rfl

theorem call_inOrder (ledger : Ledger) (report : ReportBuffer) (kind : ReportKind)
    (h : ledger.InOrder) : (ledger.call report kind).InOrder := by
  rcases replyStamps_call ledger report kind with heq | heq
  · refine ⟨by rw [heq]; exact h.ordered, ?_⟩
    intro stamp hstamp
    rw [heq] at hstamp
    exact Nat.le_succ_of_le (h.counted stamp hstamp)
  · refine ⟨?_, ?_⟩
    · rw [heq, List.pairwise_append]
      refine ⟨h.ordered, List.pairwise_singleton _ _, ?_⟩
      intro first hfirst second hsecond
      rw [List.mem_singleton.mp hsecond]
      exact Or.inr (Nat.lt_succ_of_le (h.counted first hfirst))
    · intro stamp hstamp
      rw [heq] at hstamp
      rcases List.mem_append.mp hstamp with hold | hnew
      · exact Nat.le_succ_of_le (h.counted stamp hold)
      · rw [List.mem_singleton.mp hnew]
        exact Nat.le_refl _

-- What a take does to the replies.
theorem take_cases (lines : Queues (Nat × ReportBuffer)) {entry : Nat × ReportBuffer}
    {kind : ReportKind} (h : lines.take.1 = some (entry, kind)) :
    (kind = .priority ∧ lines.priority = entry :: lines.take.2.priority) ∨
      (kind ≠ .priority ∧ lines.priority = [] ∧ lines.take.2.priority = []) := by
  rcases lines with ⟨priority, ring, latest⟩
  cases priority with
  | cons first rest =>
      obtain ⟨rfl, rfl⟩ : first = entry ∧ ReportKind.priority = kind := by
        simpa [Queues.take] using h
      exact Or.inl ⟨rfl, rfl⟩
  | nil =>
      right
      cases ring with
      | cons first rest =>
          rcases first with ⟨first, isAside⟩
          refine ⟨?_, rfl, rfl⟩
          cases isAside with
          | true =>
              rintro rfl
              simp [Queues.take] at h
          | false =>
              rintro rfl
              simp [Queues.take] at h
      | nil =>
          cases latest with
          | none => simp [Queues.take] at h
          | some last =>
              refine ⟨?_, rfl, rfl⟩
              rintro rfl
              simp [Queues.take] at h

theorem depart_none (ledger : Ledger) (h : ledger.lines.take.1 = none) :
    ledger.depart = ledger := by
  have hsame := ledger.lines.take_none h
  unfold depart
  rcases htake : ledger.lines.take with ⟨out, lines⟩
  rw [htake] at h hsame
  dsimp only at h hsame
  rw [h, hsame]

theorem replyStamps_depart (ledger : Ledger) : ledger.depart.replyStamps = ledger.replyStamps := by
  cases hout : ledger.lines.take.1 with
  | none => rw [depart_none ledger hout]
  | some entry =>
      obtain ⟨⟨stamp, report⟩, kind⟩ := entry
      rw [depart_some ledger hout]
      unfold replyStamps
      rcases take_cases ledger.lines hout with ⟨rfl, hpriority⟩ | ⟨hkind, hpriority, hafter⟩
      · rw [hpriority]
        simp
      · rw [hpriority]
        simp [hkind, hafter]

theorem depart_inOrder (ledger : Ledger) (h : ledger.InOrder) : ledger.depart.InOrder := by
  have hcalls : ledger.depart.calls = ledger.calls := by
    unfold depart
    rcases ledger.lines.take with ⟨_ | entry, lines⟩ <;> rfl
  refine ⟨?_, ?_⟩
  · rw [replyStamps_depart]
    exact h.ordered
  · rw [replyStamps_depart, hcalls]
    exact h.counted

end Ledger

-- A full input report that was queued after the first call.
def Fresh (stamp : Nat) (report : ReportBuffer) : Prop :=
  1 < stamp ∧ report.reportId = inputReportId ∧ report.data.head? = some inputReportId

namespace Ledger

-- The acknowledgement of the first call waits with fresh state behind it, and only
-- replies have left; or it has left, and fresh state waits or has left behind it.
inductive Acknowledges (ack : ReportBuffer) (ledger : Ledger) : Prop
  | waits (front back : List (Nat × ReportBuffer)) :
      ledger.lines.priority = front ++ (1, ack) :: back →
      (∀ departure ∈ ledger.taken, departure.kind = .priority) →
      (∃ entry ∈ ledger.lines.pendingState, Fresh entry.1 entry.2) →
      Acknowledges ack ledger
  | left (before after : List Departure) :
      ledger.taken = before ++ ⟨1, ack, .priority⟩ :: after →
      (∀ departure ∈ before, departure.kind = .priority) →
      ((∃ entry ∈ ledger.lines.pendingState, Fresh entry.1 entry.2) ∨
        ∃ departure ∈ after, departure.kind.isState = true ∧
          Fresh departure.stamp departure.report) →
      Acknowledges ack ledger

-- What a call may queue as state.
def StateIsInput (report : ReportBuffer) (kind : ReportKind) : Prop :=
  kind.isState = true →
    report.reportId = inputReportId ∧ report.data.head? = some inputReportId

theorem pendingState_fresh (ledger : Ledger) (report : ReportBuffer) (kind : ReportKind)
    (hcalls : 0 < ledger.calls) (hinput : StateIsInput report kind)
    (h : ∃ entry ∈ ledger.lines.pendingState, Fresh entry.1 entry.2) :
    ∃ entry ∈ (ledger.call report kind).lines.pendingState, Fresh entry.1 entry.2 := by
  cases hkind : kind.isState with
  | false =>
      unfold call
      rw [Queues.pendingState_enqueue_of_not_isState _ _ _ hkind]
      exact h
  | true =>
      obtain ⟨kept, -, hpending⟩ := Queues.pendingState_enqueue_of_isState ledger.lines
        (ledger.calls + 1, report) kind hkind
      obtain ⟨hid, hhead⟩ := hinput hkind
      refine ⟨(ledger.calls + 1, report), ?_, by dsimp only; omega, hid, hhead⟩
      unfold call
      rw [hpending]
      simp

theorem call_priority (ledger : Ledger) (report : ReportBuffer) (kind : ReportKind) :
    ∃ more, (ledger.call report kind).lines.priority = ledger.lines.priority ++ more := by
  unfold call
  cases kind with
  | priority =>
      simp only [Queues.enqueue]
      split
      · exact ⟨[], by simp⟩
      · exact ⟨[(ledger.calls + 1, report)], rfl⟩
  | transition => exact ⟨[], by simp [Queues.enqueue]⟩
  | aside =>
      simp only [Queues.enqueue]
      split <;> exact ⟨[], by simp⟩
  | continuous => exact ⟨[], by simp [Queues.enqueue]⟩

theorem call_acknowledges {ack : ReportBuffer} (ledger : Ledger) (report : ReportBuffer)
    (kind : ReportKind) (hcalls : 0 < ledger.calls) (hinput : StateIsInput report kind)
    (h : ledger.Acknowledges ack) : (ledger.call report kind).Acknowledges ack := by
  cases h with
  | waits front back hpriority hreplies hfresh =>
      obtain ⟨more, hmore⟩ := call_priority ledger report kind
      refine .waits front (back ++ more) ?_ hreplies
        (pendingState_fresh ledger report kind hcalls hinput hfresh)
      rw [hmore, hpriority]
      simp
  | left before after htaken hbefore hfresh =>
      refine .left before after htaken hbefore ?_
      rcases hfresh with hpending | hafter
      · exact Or.inl (pendingState_fresh ledger report kind hcalls hinput hpending)
      · exact Or.inr hafter

-- Whatever state report has left, the acknowledgement left earlier.
theorem Acknowledges.state_behind {ack : ReportBuffer} {ledger : Ledger}
    (h : ledger.Acknowledges ack) {before behind : List Departure} {departure : Departure}
    (htaken : ledger.taken = before ++ departure :: behind)
    (hstate : departure.kind.isState = true) : ⟨1, ack, .priority⟩ ∈ before := by
  cases h with
  | waits front back _ hreplies _ =>
      have hreply : departure.kind = .priority := hreplies departure (by rw [htaken]; simp)
      rw [hreply] at hstate
      cases hstate
  | left first rest hsplit hfirst _ =>
      -- the two splits of the list of reports are compared
      rw [htaken] at hsplit
      rcases List.append_eq_append_iff.mp hsplit with ⟨middle, hmiddle, hrest⟩ |
        ⟨middle, hmiddle, hrest⟩
      · cases middle with
        | nil =>
            have hsame := (List.cons.inj hrest).1
            rw [hsame] at hstate
            cases hstate
        | cons next middle =>
            have hnext := (List.cons.inj hrest).1
            have hreply : departure.kind = .priority :=
              hfirst departure (by rw [hmiddle, hnext]; simp)
            rw [hreply] at hstate
            cases hstate
      · cases middle with
        | nil =>
            have hsame := (List.cons.inj hrest).1
            rw [← hsame] at hstate
            cases hstate
        | cons next middle =>
            have hnext := (List.cons.inj hrest).1
            rw [hmiddle, hnext]
            simp

theorem depart_acknowledges {ack : ReportBuffer} (ledger : Ledger)
    (h : ledger.Acknowledges ack) : ledger.depart.Acknowledges ack := by
  cases hout : ledger.lines.take.1 with
  | none =>
      rw [depart_none ledger hout]
      exact h
  | some entry =>
      obtain ⟨⟨stamp, report⟩, kind⟩ := entry
      have hpending := ledger.lines.pendingState_take (stamp, report) kind hout
      rw [depart_some ledger hout]
      cases h with
      | waits front back hpriority hreplies hfresh =>
          rcases take_cases ledger.lines hout with ⟨rfl, htaken⟩ | ⟨-, hempty, -⟩
          · have hrest : ledger.lines.take.2.pendingState = ledger.lines.pendingState := by
              simpa [ReportKind.isState] using hpending.symm
            rw [hpriority] at htaken
            cases front with
            | nil =>
                -- the acknowledgement is the one that leaves
                obtain ⟨hack, -⟩ := List.cons.inj htaken
                obtain ⟨rfl, rfl⟩ := Prod.mk.inj hack
                refine .left ledger.taken [] rfl hreplies (Or.inl ?_)
                dsimp only
                rw [hrest]
                exact hfresh
            | cons first front =>
                obtain ⟨-, hafter⟩ := List.cons.inj htaken
                refine .waits front back hafter.symm ?_ ?_
                · intro departure hdeparture
                  rcases List.mem_append.mp hdeparture with hold | hnew
                  · exact hreplies departure hold
                  · rw [List.mem_singleton.mp hnew]
                · dsimp only
                  rw [hrest]
                  exact hfresh
          · rw [hempty] at hpriority
            simp at hpriority
      | left before after htaken hbefore hfresh =>
          refine .left before (after ++ [⟨stamp, report, kind⟩]) ?_ hbefore ?_
          · dsimp only
            rw [htaken]
            simp
          · rcases hfresh with ⟨other, hother, hfreshOther⟩ |
              ⟨departure, hmem, hstate, hfreshOther⟩
            · rw [hpending] at hother
              rcases List.mem_append.mp hother with hnow | hlater
              · cases hkind : kind.isState with
                | false =>
                    rw [hkind] at hnow
                    cases hnow
                | true =>
                    rw [hkind, if_pos rfl] at hnow
                    rw [List.mem_singleton.mp hnow] at hfreshOther
                    exact Or.inr ⟨⟨stamp, report, kind⟩, by simp, hkind, hfreshOther⟩
              · exact Or.inl ⟨other, hlater, hfreshOther⟩
            · exact Or.inr ⟨departure, by simp [hmem], hstate, hfreshOther⟩

end Ledger

theorem input_head (report : SwitchInputReport) : report.bytes.head? = some inputReportId := rfl

theorem store_head (bytes : List UInt8) (reportId byte : UInt8) (h : bytes.head? = some byte) :
    (ReportBuffer.store bytes reportId).data.head? = some byte := by
  cases bytes with
  | nil => cases h
  | cons first bytes => exact h

def PumpCall.IsInput (call : PumpCall) : Prop :=
  Ledger.StateIsInput (.store call.bytes call.reportId) call.kind

theorem stateCall_isInput (input : InputStateRequest) (state : SwitchState) (discrete : Bool) :
    (stateCall input state discrete).IsInput :=
  fun _ => ⟨rfl, store_head _ _ _ (input_head _)⟩

theorem replyCalls_isInput (report : Option (List UInt8)) (lastInput : InputStateRequest)
    (state : SwitchState) (pump : ReportPump) :
    ∀ call ∈ replyCalls report lastInput state pump, call.IsInput := by
  unfold replyCalls
  rcases handleSwitchSubcommand report lastInput state with ⟨_ | reply, after⟩
  · exact List.forall_mem_nil _
  · intro call hcall
    rcases List.mem_cons.mp hcall with rfl | hcall
    · intro hstate
      cases hstate
    · split at hcall
      · rw [List.mem_singleton.mp hcall]
        exact fun _ => ⟨rfl, store_head _ _ _ (input_head _)⟩
      · cases hcall

theorem usbCalls_isInput (report : Option (List UInt8)) (state : SwitchState) :
    ∀ call ∈ usbCalls report state, call.IsInput := by
  unfold usbCalls
  cases (handleSwitchUsbCommand report state).1 with
  | none => exact List.forall_mem_nil _
  | some reply =>
      intro call hcall
      rw [List.mem_singleton.mp hcall]
      intro hstate
      cases hstate

-- What the record keeps behind the first call.
structure Ledger.Kept (ack : ReportBuffer) (ledger : Ledger) : Prop where
  counted : 0 < ledger.calls
  inOrder : ledger.InOrder
  bounded : ledger.lines.priority.length ≤ priorityCapacity
  acknowledges : ledger.Acknowledges ack

theorem call_bounded (ledger : Ledger) (report : ReportBuffer) (kind : ReportKind)
    (h : ledger.lines.priority.length ≤ priorityCapacity) :
    (ledger.call report kind).lines.priority.length ≤ priorityCapacity := by
  unfold Ledger.call
  cases kind with
  | priority =>
      simp only [Queues.enqueue]
      split
      · exact h
      · rw [List.length_append, List.length_singleton]
        omega
  | transition => exact h
  | aside =>
      simp only [Queues.enqueue]
      split <;> exact h
  | continuous => exact h

theorem Ledger.Kept.record {ack : ReportBuffer} {ledger : Ledger} (h : ledger.Kept ack)
    (calls : List PumpCall) (hinput : ∀ call ∈ calls, call.IsInput) :
    (ledger.record calls).Kept ack := by
  induction calls generalizing ledger with
  | nil => exact h
  | cons call calls ih =>
      obtain ⟨hcall, hcalls⟩ := List.forall_mem_cons.mp hinput
      refine ih ⟨Nat.succ_pos _, Ledger.call_inOrder ledger _ _ h.inOrder,
        call_bounded ledger _ _ h.bounded,
        Ledger.call_acknowledges ledger _ _ h.counted hcall h.acknowledges⟩ hcalls

theorem Ledger.Kept.depart {ack : ReportBuffer} {ledger : Ledger} (h : ledger.Kept ack) :
    ledger.depart.Kept ack := by
  have horder := Ledger.depart_inOrder ledger h.inOrder
  have hack := Ledger.depart_acknowledges ledger h.acknowledges
  cases hout : ledger.lines.take.1 with
  | none =>
      rw [Ledger.depart_none ledger hout]
      exact h
  | some entry =>
      obtain ⟨⟨stamp, report⟩, kind⟩ := entry
      rw [depart_some ledger hout] at horder hack ⊢
      refine ⟨h.counted, horder, ?_, hack⟩
      have hbound := h.bounded
      rcases Ledger.take_cases ledger.lines hout with ⟨-, htaken⟩ | ⟨-, -, hempty⟩
      · rw [htaken, List.length_cons] at hbound
        exact Nat.le_of_succ_le hbound
      · rw [hempty]
        exact Nat.zero_le _

theorem step_kept {ack : ReportBuffer} (run : SwitchRun) (op : SwitchOp)
    (h : run.ledger.Kept ack) : (run.step op).ledger.Kept ack := by
  cases op with
  | update => exact h
  | stateReport input state discrete =>
      apply h.record
      intro call hcall
      rw [List.mem_singleton.mp hcall]
      exact stateCall_isInput input state discrete
  | subcommand report =>
      exact h.record _ (replyCalls_isInput report run.lastInput run.state run.pump)
  | usbCommand report => exact h.record _ (usbCalls_isInput report run.state)
  | setReady => exact h
  | take =>
      unfold SwitchRun.step
      rcases run.pump.take with ⟨_ | report, pump⟩
      · exact h
      · exact h.depart

theorem runFrom_kept {ack : ReportBuffer} (run : SwitchRun) (ops : List SwitchOp)
    (hrecorded : run.Recorded) (h : run.ledger.Kept ack) :
    (run.runFrom ops).Recorded ∧ (run.runFrom ops).ledger.Kept ack := by
  induction ops generalizing run with
  | nil => exact ⟨hrecorded, h⟩
  | cons op ops ih => exact ih (run.step op) (step_recorded run op hrecorded) (step_kept run op h)

-- A round of the drain hands out one report as long as there is one.
theorem round_size (run : SwitchRun) (h : run.Recorded) :
    let after := (run.step .setReady).step .take
    (run.ledger.lines = .empty → after.ledger.lines = .empty) ∧
      (run.ledger.lines ≠ .empty → run.ledger.lines.size = after.ledger.lines.size + 1) := by
  intro after
  have hout := (queues_take run.pump.setReady rfl).1
  have hqueues : run.pump.setReady.queues = run.ledger.lines.map Prod.snd := h.queues
  rw [hqueues, Queues.map_take] at hout
  have hafter : after.ledger = if run.pump.setReady.take.1 = none then run.ledger
      else run.ledger.depart := by
    change (SwitchRun.step { run with pump := run.pump.setReady } .take).ledger = _
    unfold SwitchRun.step
    dsimp only
    rcases run.pump.setReady.take with ⟨_ | report, pump⟩
    · rw [if_pos rfl]
    · rw [if_neg (by simp)]
  rcases run.ledger.lines.size_take with ⟨hnone, hempty⟩ | ⟨hsome, hsize⟩
  · rw [hnone] at hout
    rw [if_pos (by simpa using hout)] at hafter
    rw [hafter]
    exact ⟨id, fun hne => absurd hempty hne⟩
  · obtain ⟨⟨⟨stamp, report⟩, kind⟩, hentry⟩ := Option.ne_none_iff_exists'.mp hsome
    rw [hentry] at hout
    rw [if_neg (by simp [hout]), depart_some run.ledger hentry] at hafter
    rw [hafter]
    refine ⟨fun hempty => ?_, fun _ => hsize⟩
    rw [hempty] at hsome
    exact absurd rfl hsome

theorem drain_empties (run : SwitchRun) (rounds : Nat) (h : run.Recorded)
    (hsize : run.ledger.lines.size ≤ rounds) :
    (run.runFrom (drain rounds)).Recorded ∧
      (run.runFrom (drain rounds)).ledger.lines = .empty := by
  induction rounds generalizing run with
  | zero =>
      refine ⟨h, ?_⟩
      rcases run.ledger.lines.size_take with ⟨-, hempty⟩ | ⟨-, hpositive⟩
      · exact hempty
      · omega
  | succ rounds ih =>
      have hrecorded := step_recorded _ .take (step_recorded run .setReady h)
      obtain ⟨hempty, hless⟩ := round_size run h
      have hnext : ((run.step .setReady).step .take).ledger.lines.size ≤ rounds := by
        by_cases hlines : run.ledger.lines = .empty
        · rw [hempty hlines]
          exact Nat.zero_le _
        · have hone := hless hlines
          omega
      exact ih ((run.step .setReady).step .take) hrecorded hnext

theorem lines_empty_iff (run : SwitchRun) (h : run.Recorded) :
    run.pump.empty = true ↔ run.ledger.lines = .empty := by
  rw [empty_iff, h.queues]
  rcases run.ledger.lines with ⟨priority, ring, latest⟩
  simp [Queues.map, Queues.empty]

-- Four replies, sixteen transitions and a snapshot are all a pump can hold.
theorem size_le {ack : ReportBuffer} (run : SwitchRun) (h : run.Recorded)
    (hkept : run.ledger.Kept ack) : run.ledger.lines.size ≤ 21 := by
  have hring : run.ledger.lines.ring.length ≤ transitionCapacity := by
    have hlen := congrArg (fun queues => queues.ring.length) h.queues
    simp only [Queues.map, List.length_map] at hlen
    rw [← hlen]
    exact (waiting_length run.pump).trans_le run.pump.transitionCursor.count_le
  have hpriority := hkept.bounded
  have hlatest : run.ledger.lines.latest.toList.length ≤ 1 := by
    cases run.ledger.lines.latest <;> simp
  have hfour : priorityCapacity = 4 := rfl
  have hsixteen : transitionCapacity = 16 := rfl
  unfold Queues.size
  omega

-- The reply to a set-input-mode subcommand for full reports, and the report behind it.
theorem replyCalls_mode (lastInput : InputStateRequest) (state : SwitchState)
    (report : List UInt8) (hlen : 12 ≤ report.length) (hid : report.getD 0 0 = rumbleSubcommandId)
    (hsub : report.getD 10 0 = subSetInputMode) (hmode : report.getD 11 0 = inputReportId) :
    ∃ reply : SwitchSubcommandReply, ∃ after : SwitchState,
      handleSwitchSubcommand (some report) lastInput state = (some reply, after) ∧
      reply.subcommand = subSetInputMode ∧ reply.bytes[14]? = some subSetInputMode ∧
      asksForInput reply report = true := by
  have hvalid : ¬(report.length < 11 ∨ report.getD 0 0 ≠ rumbleSubcommandId) := by
    rw [not_or, not_not]
    exact ⟨by omega, hid⟩
  refine ⟨_, _, by rw [handleSwitchSubcommand, if_neg hvalid], hsub, ?_, ?_⟩
  · rw [← hsub]
    rfl
  · simp only [asksForInput, hsub, hmode, hlen, beq_self_eq_true, decide_true, Bool.and_self]

theorem queueSwitchSubcommandReply_full (report : Option (List UInt8))
    (lastInput : InputStateRequest) (state : SwitchState) (pump : ReportPump)
    (hfull : priorityCapacity ≤ pump.priority.length) :
    (queueSwitchSubcommandReply report lastInput state pump).1 = false ∧
      (queueSwitchSubcommandReply report lastInput state pump).2.2 = pump := by
  unfold queueSwitchSubcommandReply
  rcases handleSwitchSubcommand report lastInput state with ⟨_ | reply, after⟩
  · exact ⟨rfl, rfl⟩
  · have henqueue := enqueue_priority pump reply.bytes subcommandReplyId (reply_bytes_ne reply)
    rw [if_pos hfull] at henqueue
    simp only [henqueue]
    exact ⟨trivial, trivial⟩

theorem start_recorded (lastInput : InputStateRequest) (state : SwitchState) (pump : ReportPump) :
    (SwitchRun.start lastInput state pump).Recorded := by
  refine ⟨?_, rfl⟩
  rcases hqueues : pump.queues with ⟨priority, ring, latest⟩
  cases latest <;>
    simp [SwitchRun.start, Ledger.start, hqueues, Queues.map, Function.comp_def]

-- The first call: an acknowledgement and the report behind it.
theorem first_call_kept (pump : ReportPump) (ack input : PumpCall)
    (hroom : pump.priority.length < priorityCapacity) (hack : ack.kind = .priority)
    (hinput : input.kind = .continuous) (hstate : input.IsInput) :
    ((Ledger.start pump).record [ack, input]).Kept (.store ack.bytes ack.reportId) := by
  obtain ⟨bytes, reportId, _⟩ := ack
  obtain ⟨inputBytes, inputId, _⟩ := input
  dsimp only at hack hinput
  subst hack hinput
  have hwaiting : (Ledger.start pump).lines.priority.length = pump.priority.length := by
    simp [Ledger.start, Queues.map, ReportPump.queues]
  have hnot : ¬priorityCapacity ≤ (Ledger.start pump).lines.priority.length := by omega
  have hpriority : ((Ledger.start pump).record [⟨bytes, reportId, .priority⟩,
      ⟨inputBytes, inputId, .continuous⟩]).lines.priority =
        (Ledger.start pump).lines.priority ++ [(1, .store bytes reportId)] := by
    simp only [Ledger.record, Ledger.call, List.foldl_cons, List.foldl_nil, Queues.enqueue, hnot,
      if_false]
    rfl
  obtain ⟨hid, hhead⟩ := hstate rfl
  refine ⟨Nat.succ_pos _, ?_, ?_, ?_⟩
  · exact Ledger.call_inOrder _ _ _
      (Ledger.call_inOrder _ _ _ (Ledger.start_inOrder pump))
  · rw [hpriority, List.length_append, List.length_singleton]
    omega
  · refine .waits _ [] hpriority (List.forall_mem_nil _)
      ⟨(2, .store inputBytes inputId), ?_, Nat.lt_succ_self 1, hid, hhead⟩
    simp [Ledger.record, Ledger.call, Queues.enqueue, Queues.pendingState, Ledger.start]

-- The mode command of a host that asks for full reports is taken whenever a reply
-- can still wait. Whatever happens afterwards, its acknowledgement leaves before
-- any state, and an emptied pump has sent a full report behind it.
theorem mode_handshake (lastInput : InputStateRequest) (state : SwitchState)
    (pump : ReportPump) (report : List UInt8) (hroom : pump.priority.length < priorityCapacity)
    (hlen : 12 ≤ report.length) (hid : report.getD 0 0 = rumbleSubcommandId)
    (hsub : report.getD 10 0 = subSetInputMode) (hmode : report.getD 11 0 = inputReportId) :
    let accepted := (SwitchRun.start lastInput state pump).step (.subcommand (some report))
    (queueSwitchSubcommandReply (some report) lastInput state pump).1 = true ∧
    (∃ ack : ReportBuffer,
      ack.reportId = subcommandReplyId ∧ ack.data.head? = some subcommandReplyId ∧
      ack.data[14]? = some subSetInputMode ∧
      ∀ ops : List SwitchOp,
        let ended := accepted.runFrom ops
        ended.sent = ended.ledger.taken.map Departure.report ∧
        (∀ before departure after, ended.ledger.taken = before ++ departure :: after →
          departure.kind.isState = true → ⟨1, ack, .priority⟩ ∈ before) ∧
        (ended.pump.empty = true → ∃ before after,
          ended.ledger.taken = before ++ ⟨1, ack, .priority⟩ :: after ∧
          ∃ departure ∈ after, departure.kind.isState = true ∧ 1 < departure.stamp ∧
            departure.report.reportId = inputReportId ∧
            departure.report.data.head? = some inputReportId) ∧
        ((ended.ledger.taken.filter fun departure => departure.kind = .priority).map
          Departure.stamp).Pairwise (fun first second => first = 0 ∨ first < second) ∧
        (ended.runFrom (drain 21)).pump.empty = true) ∧
    ∀ (full : ReportPump) (request : Option (List UInt8)),
      priorityCapacity ≤ full.priority.length →
      (queueSwitchSubcommandReply request lastInput state full).1 = false ∧
        (queueSwitchSubcommandReply request lastInput state full).2.2 = full := by
  intro accepted
  obtain ⟨reply, after, hhandle, hreplySub, hbyte, hasks⟩ :=
    replyCalls_mode lastInput state report hlen hid hsub hmode
  have hcalls : replyCalls (some report) lastInput state pump =
      [⟨reply.bytes, subcommandReplyId, .priority⟩,
        ⟨(encodeSwitchInput lastInput after).1.bytes, inputReportId, .continuous⟩] := by
    simp only [replyCalls, hhandle, Option.getD_some, hroom, hasks, and_self, if_true]
  have haccepted : (queueSwitchSubcommandReply (some report) lastInput state pump).1 = true := by
    have henqueue := enqueue_priority pump reply.bytes subcommandReplyId (reply_bytes_ne reply)
    rw [if_neg (by omega)] at henqueue
    simp only [queueSwitchSubcommandReply, hhandle, henqueue, Option.getD_some, hasks, if_true]
    rfl
  have hrecorded : accepted.Recorded :=
    step_recorded _ _ (start_recorded lastInput state pump)
  have hkept : accepted.ledger.Kept (.store reply.bytes subcommandReplyId) := by
    have hledger : accepted.ledger =
        (Ledger.start pump).record (replyCalls (some report) lastInput state pump) := rfl
    rw [hledger, hcalls]
    exact first_call_kept pump ⟨reply.bytes, subcommandReplyId, .priority⟩
      (stateCall lastInput after false) hroom rfl rfl (stateCall_isInput lastInput after false)
  refine ⟨haccepted, ⟨.store reply.bytes subcommandReplyId, rfl, rfl, ?_, ?_⟩, ?_⟩
  · calc (ReportBuffer.store reply.bytes subcommandReplyId).data[14]?
        = (reply.bytes.take maxReportBytes)[14]? := rfl
      _ = some subSetInputMode := by
          rw [List.getElem?_take_of_lt (by decide)]
          exact hbyte
  · intro ops ended
    obtain ⟨hrecordedEnd, hkeptEnd⟩ := runFrom_kept accepted ops hrecorded hkept
    refine ⟨hrecordedEnd.sent, ?_, ?_, ?_, ?_⟩
    · intro before departure behind htaken hstate
      exact hkeptEnd.acknowledges.state_behind htaken hstate
    · intro hempty
      have hlines := (lines_empty_iff _ hrecordedEnd).mp hempty
      cases hkeptEnd.acknowledges with
      | waits front back hpriority _ _ =>
          have hnone := congrArg Queues.priority hlines
          rw [hpriority] at hnone
          simp [Queues.empty] at hnone
      | left before behind htaken _ hfresh =>
          refine ⟨before, behind, htaken, ?_⟩
          rcases hfresh with ⟨entry, hentry, -⟩ | ⟨departure, hmem, hstate, hfresh⟩
          · rw [hlines] at hentry
            simp [Queues.pendingState, Queues.empty] at hentry
          · exact ⟨departure, hmem, hstate, hfresh⟩
    · exact (List.pairwise_append.mp hkeptEnd.inOrder.ordered).1
    · obtain ⟨hdrained, hlines⟩ :=
        drain_empties ended 21 hrecordedEnd (size_le ended hrecordedEnd hkeptEnd)
      exact (lines_empty_iff _ hdrained).mpr hlines
  · intro full request hfull
    exact queueSwitchSubcommandReply_full request lastInput state full hfull

def modeCommand : List UInt8 :=
  [rumbleSubcommandId, 0, 0, 0, 0, 0, 0, 0, 0, 0, subSetInputMode, inputReportId]

-- Two replies wait for the host before it asks for the mode.
def repliesWaiting : ReportPump :=
  let asked : List UInt8 := [rumbleSubcommandId, 0, 0, 0, 0, 0, 0, 0, 0, 0, 2, 0]
  let first := (queueSwitchSubcommandReply (some asked) .zero .initial ReportPump.zero.reset).2.2
  (queueSwitchSubcommandReply (some asked) .zero .initial first).2.2

theorem mode_handshake_waiting :
    let ended := ((SwitchRun.start .zero .initial repliesWaiting).step
      (.subcommand (some modeCommand))).runFrom (drain 21)
    repliesWaiting.priority.length = 2 ∧ ended.pump.empty = true ∧
      ∃ (ack : ReportBuffer) (before after : List Departure),
        ack.data[14]? = some subSetInputMode ∧
        ended.ledger.taken = before ++ ⟨1, ack, .priority⟩ :: after ∧
        ∃ departure ∈ after, departure.kind.isState = true ∧
          departure.report.reportId = inputReportId := by
  intro ended
  obtain ⟨-, ⟨ack, -, -, hsub, hruns⟩, -⟩ := mode_handshake .zero .initial repliesWaiting modeCommand
    (by decide +kernel) (by decide) (by decide) (by decide) (by decide)
  have hempty : ended.pump.empty = true := (hruns []).2.2.2.2
  obtain ⟨before, after, htaken, departure, hafter, hstate, -, hid, -⟩ :=
    (hruns (drain 21)).2.2.1 hempty
  exact ⟨by decide +kernel, hempty, ack, before, after, hsub, htaken, departure, hafter, hstate, hid⟩

end LibVirtualGamepad.SwitchPro
