import LibVirtualGamepad.Driver.SlotRun.Readiness
import LibVirtualGamepad.Driver.SlotRun.WireSequence

-- Older input never lands behind newer input: the state reports are queued in the order
-- of the inputs they carry.
namespace LibVirtualGamepad

-- The input under a number; zero stands for the time before the first.
def inputAt (inputs : List InputStateRequest) (n : Nat) : InputStateRequest :=
  (InputStateRequest.zero :: inputs).getD n .zero

theorem inputAt_append (inputs : List InputStateRequest) (request : InputStateRequest) {n : Nat}
    (h : n ≤ inputs.length) : inputAt (inputs ++ [request]) n = inputAt inputs n := by
  unfold inputAt
  rw [← List.cons_append, List.getD_eq_getElem?_getD, List.getD_eq_getElem?_getD,
    List.getElem?_append_left (by rw [List.length_cons]; omega)]

theorem inputAt_last (inputs : List InputStateRequest) (request : InputStateRequest) :
    inputAt (inputs ++ [request]) (inputs ++ [request]).length = request := by
  have hlen : (InputStateRequest.zero :: inputs).length = (inputs ++ [request]).length := by
    rw [List.length_cons, List.length_append]
    rfl
  unfold inputAt
  rw [← List.cons_append, ← hlen, List.getD_eq_getElem?_getD, List.getElem?_concat_length]
  rfl

-- The operation offers a non-empty transition or continuous report.
def PumpEvent.isState (event : PumpEvent) : Bool := event.op.offered.any fun offer => offer.2.isState

-- A state report encodes the input under its number.
def Encodes (inputs : List InputStateRequest) (event : PumpEvent) (tag : StateTag) : Prop :=
  tag.number ≤ inputs.length ∧ ∃ encoded reportId kind,
    StateReportOf (inputAt inputs tag.number) encoded ∧ encoded.tag = tag ∧
      event.op = .enqueue (some encoded.bytes) reportId kind

-- The record of a slot whose state reports are in order.
structure InOrder (data : SlotData) : Prop where
  ordered : (data.history.events.filterMap PumpEvent.tag).Pairwise fun a b => a.number ≤ b.number
  encodes : ∀ event ∈ data.history.events, ∀ tag, event.tag = some tag →
    Encodes data.history.inputs event tag
  tagged : ∀ event ∈ data.history.events, event.isState = true → event.tag.isSome = true
  newest : data.lastInput = inputAt data.history.inputs data.history.inputs.length

section

variable {step : SlotStep} {data data' : SlotData}

theorem Encodes.mono {inputs : List InputStateRequest} {event : PumpEvent} {tag : StateTag}
    (h : Encodes inputs event tag) (request : InputStateRequest) :
    Encodes (inputs ++ [request]) event tag := by
  obtain ⟨hle, encoded, reportId, kind, hencoded, htag, hop⟩ := h
  refine ⟨?_, encoded, reportId, kind, ?_, htag, hop⟩
  · rw [List.length_append]
    omega
  · rw [inputAt_append inputs request hle]
    exact hencoded

theorem InOrder.keepInput (h : InOrder data) (request : InputStateRequest) :
    InOrder (data.keepInput request) :=
  ⟨h.ordered, fun event hmem tag htag => (h.encodes event hmem tag htag).mono request, h.tagged,
    (inputAt_last _ _).symm⟩

theorem InOrder.congr (h : InOrder data) (hsame : SameReports data data') : InOrder data' := by
  refine ⟨?_, ?_, ?_, ?_⟩
  · rw [hsame.history]
    exact h.ordered
  · rw [hsame.history]
    exact h.encodes
  · rw [hsame.history]
    exact h.tagged
  · rw [hsame.lastInput, hsame.history]
    exact h.newest

-- One more event, without a report or with one that carries the last input.
theorem InOrder.log (h : InOrder data) {event : PumpEvent}
    (hinputs : data'.history.inputs = data.history.inputs)
    (hevents : data'.history.events = data.history.events ++ [event])
    (hlast : data'.lastInput = data.lastInput)
    (htagged : event.isState = true → event.tag.isSome = true)
    (hencodes : ∀ tag, event.tag = some tag → tag.number = data.history.inputs.length ∧
      Encodes data.history.inputs event tag) : InOrder data' := by
  refine ⟨?_, ?_, ?_, ?_⟩
  · rw [hevents, List.filterMap_append, List.pairwise_append]
    refine ⟨h.ordered, ?_, ?_⟩
    · cases htag : event.tag <;> simp [htag]
    · intro old hold new hnew
      obtain ⟨other, hother, hold⟩ := List.mem_filterMap.mp hold
      have hnew : event.tag = some new := by simpa using hnew
      rw [(hencodes new hnew).1]
      exact (h.encodes other hother old hold).1
  · rw [hevents, hinputs]
    intro other hmem tag htag
    rcases List.mem_append.mp hmem with hmem | hmem
    · exact h.encodes other hmem tag htag
    · obtain rfl := List.mem_singleton.mp hmem
      exact (hencodes tag htag).2
  · rw [hevents]
    intro other hmem hstate
    rcases List.mem_append.mp hmem with hmem | hmem
    · exact h.tagged other hmem hstate
    · obtain rfl := List.mem_singleton.mp hmem
      exact htagged hstate
  · rw [hlast, hinputs]
    exact h.newest

theorem InOrder.enqueue (h : InOrder data) {report : QueuedReport} (hcarried : Carried data report) :
    InOrder (data.enqueue report).2 := by
  refine h.log rfl rfl rfl (fun hstate => ?_) fun tag htag => ?_
  · cases htag : report.tag with
    | some tag => rfl
    | none =>
        have hkind := hcarried.untagged htag
        have hoffered : (ReportPump.PumpOp.enqueue (some report.bytes) report.reportId
            report.kind).offered.any (fun offer => offer.2.isState) = true := hstate
        cases hbytes : report.bytes with
        | nil =>
            rw [hbytes] at hoffered
            simp [ReportPump.PumpOp.offered] at hoffered
        | cons byte bytes =>
            rw [hbytes] at hoffered
            simp [ReportPump.PumpOp.offered, hkind] at hoffered
  · obtain ⟨hnumber, encoded, hencoded, hbytes, heq⟩ := hcarried.tagged tag htag
    refine ⟨hnumber, Nat.le_of_eq hnumber, encoded, report.reportId, report.kind, ?_, heq, ?_⟩
    · rw [hnumber, ← h.newest]
      exact hencoded
    · rw [hbytes]

theorem InOrder.setReady (h : InOrder data) : InOrder data.setReady :=
  h.log rfl rfl rfl (fun hstate => absurd hstate (by simp [PumpEvent.isState,
    ReportPump.PumpOp.offered])) (fun _ htag => absurd htag (by simp))

theorem InOrder.takeReport (h : InOrder data) (now : UInt64) : InOrder (data.takeReport now).2 := by
  obtain ⟨-, hevents, hinputs, hlast, -⟩ := takeReport_lines data now
  exact h.log hinputs hevents hlast (fun hstate => absurd hstate (by simp [PumpEvent.isState,
    ReportPump.PumpOp.offered])) (fun _ htag => absurd htag (by simp))

-- What a section leaves of the inputs and adds to the record.
structure Extends (data data' : SlotData) : Prop where
  inputs : data'.history.inputs = data.history.inputs
  lastInput : data'.lastInput = data.lastInput
  events : data.history.events <+: data'.history.events

theorem Extends.refl (data : SlotData) : Extends data data := ⟨rfl, rfl, List.prefix_rfl⟩

theorem Extends.trans {mid : SlotData} (h : Extends data mid) (h' : Extends mid data') :
    Extends data data' :=
  ⟨h'.inputs.trans h.inputs, h'.lastInput.trans h.lastInput, h.events.trans h'.events⟩

theorem Extends.of_same (hsame : SameReports data data') : Extends data data' :=
  ⟨by rw [hsame.history], hsame.lastInput, hsame.history ▸ List.prefix_rfl⟩

theorem extends_takeReport (data : SlotData) (now : UInt64) :
    Extends data (data.takeReport now).2 := by
  obtain ⟨-, hevents, hinputs, hlast, -⟩ := takeReport_lines data now
  exact ⟨hinputs, hlast, hevents ▸ List.prefix_append _ _⟩

theorem extends_enqueue (data : SlotData) (report : QueuedReport) :
    Extends data (data.enqueue report).2 := ⟨rfl, rfl, List.prefix_append _ _⟩

theorem extends_setReady (data : SlotData) : Extends data data.setReady :=
  ⟨rfl, rfl, List.prefix_append _ _⟩

theorem Queued.extends (h : Queued step data data') : Extends data data' := by
  induction h with
  | same hsame => exact .of_same hsame
  | enqueue _ report _ hsame ih =>
      exact (ih.trans (extends_enqueue _ report)).trans (.of_same hsame)
  | ready _ _ hsame ih => exact (ih.trans (extends_setReady _)).trans (.of_same hsame)

theorem Handles.extends {s : Section} {r : StepResult} (h : Handles s step data r) :
    Extends data r.data := by
  cases h with
  | nothing same submit next => exact .of_same same
  | queues queued accepts submit next => exact queued.extends
  | refused queued accepts submit next => exact queued.extends
  | full queued accepts pump submit next => exact queued.extends
  | takes mid queued accepts after submit next =>
      exact after ▸ queued.extends.trans (extends_takeReport mid s.now)

theorem Queued.inOrder (h : Queued step data data') (horder : InOrder data)
    (hgiven : ∀ report ∈ step.given, Carried data report) : InOrder data' := by
  induction h with
  | same hsame => exact horder.congr hsame
  | enqueue hqueued report carried hsame ih =>
      have hcarried := carried.elim id fun hreport =>
        (hgiven report hreport).of_eq hqueued.extends.inputs hqueued.extends.lastInput
      exact (ih.enqueue hcarried).congr hsame
  | ready _ _ hsame ih => exact ih.setReady.congr hsame

theorem Handles.inOrder {s : Section} {r : StepResult} (h : Handles s step data r)
    (horder : InOrder data) (hgiven : ∀ report ∈ step.given, Carried data report) :
    InOrder r.data := by
  cases h with
  | nothing same submit next => exact horder.congr same
  | queues queued accepts submit next => exact queued.inOrder horder hgiven
  | refused queued accepts submit next => exact queued.inOrder horder hgiven
  | full queued accepts pump submit next => exact queued.inOrder horder hgiven
  | takes mid queued accepts after submit next =>
      exact after ▸ (queued.inOrder horder hgiven).takeReport s.now

end

-- A section of the pump that waits for no state report.
def SlotStep.Replies (step : SlotStep) : Prop :=
  step.pumps = true ∧ ∀ report ∈ step.given, report.tag = none

section Next

variable (s : Section) (data : SlotData)

theorem next_pumpReport (report : Option QueuedReport) (answers : Bool) :
    (s.pumpReport report answers data).next = [] := by
  unfold Section.pumpReport
  split <;> rfl

theorem next_ready : (s.ready data).next = [] := by
  unfold Section.ready
  split <;> rfl

theorem next_keepalive : (s.keepalive data).next = [] := by
  unfold Section.keepalive
  split
  · rfl
  · split
    · rfl
    · extract_lets batteryDue enqueued sc26 charged resendDue
      split
      · rfl
      · split
        · exact next_pumpReport s _ _ _
        · exact next_pumpReport s _ _ _

theorem next_getFeature (transfer : Transfer) : (s.getFeature transfer data).next = [] := by
  unfold Section.getFeature
  extract_lets profile answer
  have hanswer : ∀ report refusal, (answer report refusal).next = [] := by
    intro report refusal
    cases report <;> rfl
  split
  · rfl
  · split
    · rfl
    · split
      · exact hanswer _ _
      · split <;> exact hanswer _ _

theorem next_setFeature (transfer : Transfer) : (s.setFeature transfer data).next = [] := by
  unfold Section.setFeature
  dsimp only
  split
  · rfl
  · split
    · rfl
    · split
      · rfl
      · split <;> rfl

theorem next_getInputReport (transfer : Transfer) : (s.getInputReport transfer data).next = [] := by
  unfold Section.getInputReport
  split
  · rfl
  · split
    · rfl
    · dsimp only
      split
      · rfl
      · split <;> rfl

-- A write may queue a reply or lead to an acknowledgement.
theorem next_write (transfer : Transfer) : ∀ after ∈ (s.write transfer data).next, after.Replies := by
  have hnothing : ∀ after ∈ ([] : List SlotStep), after.Replies := by simp
  unfold Section.write
  dsimp only
  split
  · unfold Section.writeGeneric
    dsimp only
    split
    · exact hnothing
    · split
      · exact hnothing
      · split <;> exact hnothing
  · split
    · exact hnothing
    · split
      · unfold Section.writeSteam
        dsimp only
        split
        · split
          · intro after hafter
            obtain rfl := List.mem_singleton.mp hafter
            exact ⟨rfl, by simp [SlotStep.given, Section.ackReport]⟩
          · exact hnothing
        · split <;> exact hnothing
      · split
        · unfold Section.writeSwitch
          extract_lets rumbled
          split
          rename_i queued after heq
          cases queued with
          | false => exact hnothing
          | true =>
              intro after hafter
              obtain rfl := List.mem_singleton.mp hafter
              exact ⟨rfl, by simp [SlotStep.given]⟩
        · split
          · unfold Section.writePlaystation
            split <;> exact hnothing
          · unfold Section.writeXbox
            dsimp only
            split
            · exact hnothing
            · split <;> exact hnothing

-- What does not belong to a request never leads to a state report.
theorem next_replies {step : SlotStep}
    (h : step.pumps = true ∨ step.enters = true ∧ step.isRequest = false) :
    ∀ after ∈ (step.run s data).next, after.Replies := by
  have hnothing : ∀ next : List SlotStep, next = [] → ∀ after ∈ next, after.Replies := by
    intro next hnext after hafter
    rw [hnext] at hafter
    exact absurd hafter (by simp)
  cases step with
  | pumpReport report answers => exact hnothing _ (next_pumpReport s data report answers)
  | ready => exact hnothing _ (next_ready s data)
  | write transfer => exact next_write s data transfer
  | getFeature transfer => exact hnothing _ (next_getFeature s data transfer)
  | setFeature transfer => exact hnothing _ (next_setFeature s data transfer)
  | getInputReport transfer => exact hnothing _ (next_getInputReport s data transfer)
  | keepalive => exact hnothing _ (next_keepalive s data)
  | _ => simp [SlotStep.pumps, SlotStep.enters, SlotStep.isRequest] at h

end Next

-- The reports that wait for their section carry the last input, and an operation that is
-- no request holds no state report back.
structure Orderly (run : SlotRun) : Prop where
  waiting : run.Waiting
  order : InOrder run.data
  carried : ∀ entry ∈ run.pending, ∀ report ∈ entry.step.given, Carried run.data report
  replies : ∀ entry ∈ run.pending, entry.request = false → entry.step.Replies

namespace Orderly

variable {run : SlotRun}

theorem created (controllerId : UInt32) (profile : Profile) :
    Orderly (.created controllerId profile) := by
  refine ⟨?_, ⟨?_, ?_, ?_, rfl⟩, ?_, ?_⟩ <;>
    simp [SlotRun.Waiting, SlotRun.created, SlotData.created, SlotData.zero, SlotHistory.empty]

-- A new input enters only while no request holds a state report.
theorem keepInput (h : Orderly run) (hfree : ∀ entry ∈ run.pending, entry.request = false)
    (request : InputStateRequest) :
    ∀ entry ∈ run.pending, ∀ report ∈ entry.step.given, Carried (run.data.keepInput request) report := by
  intro entry hmem report hreport
  have hcarried := h.carried entry hmem report hreport
  have htag := (h.replies entry hmem (hfree entry hmem)).2 report hreport
  exact carried_of_untagged hcarried.sized (hcarried.untagged htag) htag

theorem execute (h : Orderly run) (s : Section) {entry : InProgress} {rest : List InProgress}
    (hruns : run.Runs entry rest) : Orderly (run.execute s entry rest) := by
  have hrest : ∀ other ∈ rest, other ∈ run.pending := by
    intro other hother
    cases hruns with
    | enters _ _ => exact hother
    | resumes hpending =>
        rw [hpending]
        rcases List.mem_append.mp hother with hother | hother <;> simp [hother]
  have hreply : entry.request = false →
      entry.step.pumps = true ∨ entry.step.enters = true ∧ entry.step.isRequest = false := by
    intro hrequest
    cases hruns with
    | enters henters _ => exact .inr ⟨henters, hrequest⟩
    | resumes hpending => exact .inl (h.replies entry (by simp [hpending]) hrequest).1
  obtain ⟨base, hkept, hhandles⟩ := entry.step.handles s run.data
  -- The reports that wait carry the input that has just been taken in, if one was.
  have hbase : InOrder base ∧ (∀ report ∈ entry.step.given, Carried base report) ∧
      ∀ other ∈ rest, ∀ report ∈ other.step.given, Carried base report := by
    rcases hkept with rfl | ⟨owner, request, hstep, rfl⟩
    · refine ⟨h.order, ?_, fun other hother => h.carried other (hrest other hother)⟩
      cases hruns with
      | @enters step henters _ =>
          intro report hreport
          cases step <;> simp_all [SlotStep.given, SlotStep.enters]
      | resumes hpending => exact h.carried entry (by simp [hpending])
    · cases hruns with
      | @enters step henters hfree =>
          have hrequest : step.isRequest = true := by
            rw [show step = .input owner request from hstep]
            rfl
          refine ⟨h.order.keepInput request, fun report hreport => ?_, h.keepInput (hfree hrequest) request⟩
          rw [show (InProgress.mk step.isRequest step).step = .input owner request from hstep] at hreport
          exact absurd hreport (by simp [SlotStep.given])
      | resumes hpending =>
          have henters := h.waiting entry (by simp [hpending])
          rw [hstep] at henters
          exact absurd henters (by simp [SlotStep.enters])
  obtain ⟨horder, hgiven, hwaiting⟩ := hbase
  have hext : Extends base (run.execute s entry rest).data := hhandles.extends
  refine ⟨h.waiting.execute s hruns, hhandles.inOrder horder hgiven,
    fun other hother report hreport => ?_, fun other hother hrequest => ?_⟩
  · rcases List.mem_append.mp hother with hother | hnext
    · exact (hwaiting other hother report hreport).of_eq hext.inputs hext.lastInput
    · obtain ⟨after, hmem, rfl⟩ := List.mem_map.mp hnext
      rcases entry.step.next_cases s run.data with hnone | ⟨only, honly, hprepared⟩
      · rw [hnone] at hmem
        exact absurd hmem (by simp)
      · rw [honly, List.mem_singleton] at hmem
        subst hmem
        cases after <;> simp_all [SlotStep.given, Prepared]
        exact hprepared
  · rcases List.mem_append.mp hother with hother | hnext
    · exact h.replies other (hrest other hother) hrequest
    · obtain ⟨after, hmem, rfl⟩ := List.mem_map.mp hnext
      exact next_replies s run.data (hreply hrequest) after hmem

end Orderly

end LibVirtualGamepad
