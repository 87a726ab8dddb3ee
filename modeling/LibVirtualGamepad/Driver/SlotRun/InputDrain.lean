import LibVirtualGamepad.Driver.SlotRun.InputOrder

-- The last input is on its way or has gone out: on the wire the state reports follow the
-- order of the inputs, up to the last one.
namespace LibVirtualGamepad

-- A state report of the last input is in the record.
def Reported (data : SlotData) : Prop :=
  ∃ event ∈ data.history.events, event.isState = true ∧
    ∃ tag, event.tag = some tag ∧ tag.number = data.history.inputs.length

-- A section that is called with a state report of the last input.
def SlotStep.Holds (step : SlotStep) (data : SlotData) : Prop :=
  step.pumps = true ∧ ∃ report ∈ step.given, report.kind.isState = true ∧
    2 ≤ report.bytes.length ∧ ∃ tag, report.tag = some tag ∧ tag.number = data.history.inputs.length

theorem classify_isState (data : SlotData) (buttons : UInt32) (leftTrigger rightTrigger : UInt8) :
    (data.classify buttons leftTrigger rightTrigger).1.isState = true := by
  simp only [SlotData.classify, ReportPump.classify]
  split <;> rfl

theorem isState_enqueue {report : QueuedReport} (hkind : report.kind.isState = true)
    (hsized : 2 ≤ report.bytes.length) :
    (PumpEvent.mk (.enqueue (some report.bytes) report.reportId report.kind) report.tag).isState =
      true := by
  match hbytes : report.bytes with
  | [] =>
      rw [hbytes] at hsized
      exact absurd hsized (by decide)
  | byte :: bytes =>
      simp only [PumpEvent.isState, ReportPump.PumpOp.offered, Option.any_some, hkind]

section

variable {s : Section} {data data' : SlotData}

theorem Reported.extends (h : Reported data) (hext : Extends data data') : Reported data' := by
  obtain ⟨event, hmem, hstate, tag, htag, hnumber⟩ := h
  exact ⟨event, hext.events.subset hmem, hstate, tag, htag, hnumber.trans (by rw [hext.inputs])⟩

theorem SlotStep.Holds.of_eq {step : SlotStep} (h : step.Holds data)
    (hinputs : data'.history.inputs = data.history.inputs) : step.Holds data' := by
  rw [SlotStep.Holds, hinputs]
  exact h

-- The section of the pump queues what it was called with.
theorem reported_pumpReport {report : QueuedReport} (answers : Bool)
    (haccepts : s.acceptsVhfCallbacks = true) (hkind : report.kind.isState = true)
    (hsized : 2 ≤ report.bytes.length)
    (htag : ∃ tag, report.tag = some tag ∧ tag.number = data.history.inputs.length) :
    Reported (s.pumpReport (some report) answers data).data := by
  have hqueued : Reported (data.enqueue report).2 := by
    obtain ⟨tag, htag, hnumber⟩ := htag
    exact ⟨_, List.mem_append_right _ (List.mem_singleton_self _), isState_enqueue hkind hsized,
      tag, htag, hnumber⟩
  have hafter : (s.pumpReport (some report) answers data).data =
      ((data.enqueue report).2.takeReport s.now).2 := by
    unfold Section.pumpReport Section.pumpReportLocked
    rw [if_pos haccepts]
  rw [hafter]
  exact hqueued.extends (extends_takeReport _ _)

theorem Reported.of_holds {step : SlotStep} (haccepts : s.acceptsVhfCallbacks = true)
    (h : step.Holds data) : Reported (step.run s data).data := by
  obtain ⟨hpumps, report, hgiven, hkind, hsized, htag⟩ := h
  cases step with
  | pumpReport given answers =>
      obtain rfl : given = some report := hgiven
      exact reported_pumpReport answers haccepts hkind hsized htag
  | _ => exact absurd hpumps (by simp [SlotStep.pumps])

-- A request that is not refused has its report queued, or leads to the section that
-- queues it.
theorem input_settles (haccepts : s.acceptsVhfCallbacks = true) (owner : File)
    (request : InputStateRequest) :
    (s.input owner request data).data = data ∨ Reported (s.input owner request data).data ∨
      ∃ after ∈ (s.input owner request data).next, after.Holds (s.input owner request data).data := by
  have hholds : ∀ (kept after : SlotData) (encoded : SlotData.Encoded) (kind : ReportKind),
      Carried kept (encoded.queued kind) → kind.isState = true →
      after.history.inputs = kept.history.inputs →
      (SlotStep.pumpReport (some (encoded.queued kind)) true).Holds after := by
    intro kept after encoded kind hcarried hkind hinputs
    refine ⟨rfl, _, rfl, hkind, hcarried.sized, encoded.tag, rfl, ?_⟩
    rw [hinputs]
    exact (hcarried.tagged _ rfl).1
  unfold Section.input
  split
  · exact .inl rfl
  · split
    · refine .inr (.inr ⟨_, List.mem_singleton_self _, ?_⟩)
      have hsame := (same_classify (data.keepInput request) request.buttons request.leftTrigger
        request.rightTrigger).trans (same_encodePlaystation _ request s.now)
      exact hholds _ _ _ _ (carried_playstation _ _) (classify_isState _ _ _ _)
        (by rw [hsame.history]; rfl)
    · split
      · refine .inr (.inl ?_)
        have hencode := same_encodeSteam (data.keepInput request) request s.now
        refine reported_pumpReport true haccepts (classify_isState _ _ _ _)
          (carried_steam (data.keepInput request) .continuous s.now).sized ⟨_, rfl, ?_⟩
        rw [(same_classify _ _ _ _).history, hencode.history]
        rfl
      · split
        · refine .inr (.inr ⟨_, List.mem_singleton_self _, ?_⟩)
          have hsame := (same_encodeSwitch (data.keepInput request) request).trans
            (same_classify _ request.buttons request.leftTrigger request.rightTrigger)
          exact hholds (data.keepInput request) _ _ _ (carried_switch _ _) (classify_isState _ _ _ _)
            (by rw [hsame.history])
        · split
          · refine .inr (.inr ⟨_, List.mem_singleton_self _, ?_⟩)
            exact hholds (data.keepInput request) _ _ _ (carried_encoded (.xbox _) rfl _)
              (classify_isState _ _ _ _) (by rw [(same_classify _ _ _ _).history])
          · split
            · refine .inr (.inr ⟨_, List.mem_singleton_self _, ?_⟩)
              exact hholds (data.keepInput request) _ _ _ (carried_encoded (.generic _) rfl _)
                (classify_isState _ _ _ _) (by rw [(same_classify _ _ _ _).history])
            · exact .inl rfl

end

namespace SlotRun

-- There is no input yet, or the last one is in the record or held by a section.
def Settled (run : SlotRun) : Prop :=
  run.data.history.inputs = [] ∨ Reported run.data ∨
    ∃ entry ∈ run.pending, entry.step.Holds run.data

theorem Settled.execute {run : SlotRun} (h : run.Settled) {s : Section}
    (haccepts : s.acceptsVhfCallbacks = true) {entry : InProgress} {rest : List InProgress}
    (hruns : run.Runs entry rest) : (run.execute s entry rest).Settled := by
  -- A section that takes no input in.
  have hother : Extends run.data (run.execute s entry rest).data →
      (run.execute s entry rest).Settled := by
    intro hext
    rcases h with hnone | hreported | ⟨other, hmem, hholds⟩
    · exact .inl (hext.inputs.trans hnone)
    · exact .inr (.inl (hreported.extends hext))
    · have hrest : other = entry ∨ other ∈ rest := by
        cases hruns with
        | enters _ _ => exact .inr hmem
        | resumes hpending =>
            rw [hpending] at hmem
            rcases List.mem_append.mp hmem with hmem | hmem
            · exact .inr (List.mem_append_left _ hmem)
            · rcases List.mem_cons.mp hmem with rfl | hmem
              · exact .inl rfl
              · exact .inr (List.mem_append_right _ hmem)
      rcases hrest with rfl | hrest
      · exact .inr (.inl (.of_holds haccepts hholds))
      · exact .inr (.inr ⟨other, List.mem_append_left _ hrest, hholds.of_eq hext.inputs⟩)
  obtain ⟨base, hkept, hhandles⟩ := entry.step.handles s run.data
  rcases hkept with rfl | ⟨owner, request, hstep, rfl⟩
  · exact hother hhandles.extends
  · have hrun : entry.step.run s run.data = s.input owner request run.data := by
      rw [hstep]
      rfl
    have hdata : (run.execute s entry rest).data = (s.input owner request run.data).data :=
      congrArg StepResult.data hrun
    rcases @input_settles s run.data haccepts owner request with hsame | hreported | ⟨after, hmem, hholds⟩
    · refine hother ?_
      rw [hdata, hsame]
      exact .refl _
    · exact .inr (.inl (hdata ▸ hreported))
    · refine .inr (.inr ⟨⟨entry.request, after⟩, List.mem_append_right _ ?_, hdata ▸ hholds⟩)
      rw [hrun]
      exact List.mem_map_of_mem hmem

end SlotRun

-- A report as it goes out: the stream's number may be stamped over its second byte.
def SentAs (report sent : ReportBuffer) : Prop := sent = report ∨ ∃ n, sent = report.setByte 1 n

structure Delivers (run : SlotRun) : Prop where
  recording : Recording run
  sent : List.Forall₂ SentAs run.data.handedOut run.taken

theorem Delivers.execute {run : SlotRun} (h : Delivers run) (s : Section) {entry : InProgress}
    {rest : List InProgress} (hruns : run.Runs entry rest) : Delivers (run.execute s entry rest) := by
  obtain ⟨hrecording, hhands⟩ := h.recording.execute s hruns
  refine ⟨hrecording, ?_⟩
  cases hhands with
  | nothing kept taken =>
      rw [kept.handedOut, taken]
      exact h.sent
  | report report handedOut taken wireSequence selectedProfile =>
      rw [handedOut, taken]
      refine List.rel_append h.sent (.cons ?_ .nil)
      unfold SlotData.stamped
      split
      · exact .inr ⟨_, rfl⟩
      · exact .inl rfl

-- The tag of the state report that an operation queued.
def stateTagAt (events : List PumpEvent) (i : Nat) : Option StateTag :=
  (events[i]?.filter PumpEvent.isState).bind PumpEvent.tag

section

variable {data : SlotData}

theorem stateAt_op (events : List PumpEvent) (i : Nat) :
    ReportPump.stateAt (events.map PumpEvent.op) i = events[i]?.any PumpEvent.isState := by
  simp only [ReportPump.stateAt, ReportPump.offeredAt, List.getElem?_map]
  cases events[i]? <;> rfl

theorem stateTagAt_some {events : List PumpEvent} {i : Nat} {tag : StateTag}
    (h : stateTagAt events i = some tag) :
    ∃ event, events[i]? = some event ∧ event.isState = true ∧ event.tag = some tag := by
  obtain ⟨event, hevent, htag⟩ := Option.bind_eq_some_iff.mp h
  obtain ⟨hget, hstate⟩ := Option.filter_eq_some_iff.mp hevent
  exact ⟨event, hget, hstate, htag⟩

theorem stateTagAt_eq {events : List PumpEvent} {i : Nat} {event : PumpEvent}
    (hget : events[i]? = some event) (hstate : event.isState = true) :
    stateTagAt events i = event.tag := by
  simp only [stateTagAt, hget, Option.filter_some, hstate, if_true, Option.bind_some]

theorem InOrder.ordered_at (h : InOrder data) {i j : Nat} (hij : i < j) {a b : StateTag}
    (ha : stateTagAt data.history.events i = some a)
    (hb : stateTagAt data.history.events j = some b) : a.number ≤ b.number := by
  obtain ⟨event, hevent, -, hatag⟩ := stateTagAt_some ha
  obtain ⟨other, hother, -, hbtag⟩ := stateTagAt_some hb
  obtain ⟨hi, rfl⟩ := List.getElem?_eq_some_iff.mp hevent
  obtain ⟨hj, rfl⟩ := List.getElem?_eq_some_iff.mp hother
  have hpairs := List.pairwise_filterMap.mp h.ordered
  exact List.pairwise_iff_getElem.mp hpairs i j hi hj hij a hatag b hbtag

-- The state reports that left carry their inputs in order.
theorem InOrder.wire (h : InOrder data) {origin : List Nat}
    (hordered : (origin.filter (ReportPump.stateAt (data.history.events.map PumpEvent.op))).Pairwise
      (· < ·)) :
    (origin.filterMap (stateTagAt data.history.events)).Pairwise fun a b => a.number ≤ b.number := by
  have hstate : ∀ {i tag}, stateTagAt data.history.events i = some tag →
      ReportPump.stateAt (data.history.events.map PumpEvent.op) i = true := by
    intro i tag htag
    obtain ⟨event, hget, hevent, -⟩ := stateTagAt_some htag
    rw [stateAt_op, hget, Option.any_some, hevent]
  rw [List.pairwise_filterMap]
  refine (List.pairwise_filter.mp hordered).imp fun hlt a ha b hb => ?_
  exact h.ordered_at (hlt (hstate ha) (hstate hb)) ha hb

-- If the newest state report has left, it was one of the last input.
theorem InOrder.drained (h : InOrder data) (hreported : Reported data) {origin : List Nat}
    (hlast : (origin.filter (ReportPump.stateAt (data.history.events.map PumpEvent.op))).getLast? =
      ReportPump.lastState (data.history.events.map PumpEvent.op) data.history.events.length) :
    ∃ tag, (origin.filterMap (stateTagAt data.history.events)).getLast? = some tag ∧
      tag.number = data.history.inputs.length := by
  obtain ⟨event, hmem, hstate, tag, htag, hnumber⟩ := hreported
  obtain ⟨k, hk, hget⟩ := List.mem_iff_getElem.mp hmem
  have hgetk : data.history.events[k]? = some event := by
    rw [List.getElem?_eq_getElem hk, hget]
  have hstatek : ReportPump.stateAt (data.history.events.map PumpEvent.op) k = true := by
    rw [stateAt_op, hgetk, Option.any_some, hstate]
  obtain ⟨i, hi, hki, hlt, hstatei⟩ := ReportPump.lastState_of_stateAt hk hstatek
  rw [hi] at hlast
  obtain ⟨front, hfront⟩ := List.getLast?_eq_some_iff.mp hlast
  have hgeti : data.history.events[i]? = some data.history.events[i] := List.getElem?_eq_getElem hlt
  have hnewest : data.history.events[i].isState = true := by
    rw [stateAt_op, hgeti] at hstatei
    exact hstatei
  obtain ⟨newest, htagi⟩ := Option.isSome_iff_exists.mp
    (h.tagged _ (List.getElem_mem hlt) hnewest)
  have htagat : stateTagAt data.history.events i = some newest :=
    (stateTagAt_eq hgeti hnewest).trans htagi
  refine ⟨newest, ?_, ?_⟩
  · -- Only state reports have such a tag.
    have hsame : origin.filterMap (stateTagAt data.history.events) =
        (origin.filter (ReportPump.stateAt (data.history.events.map PumpEvent.op))).filterMap
          (stateTagAt data.history.events) := by
      rw [List.filterMap_filter]
      refine List.filterMap_congr fun j _ => ?_
      split
      · rfl
      · rename_i hno
        cases hj : stateTagAt data.history.events j with
        | none => rfl
        | some other =>
            obtain ⟨event, hget, hevent, -⟩ := stateTagAt_some hj
            rw [stateAt_op, hget, Option.any_some, hevent] at hno
            exact absurd rfl hno
    rw [hsame, hfront, List.filterMap_append, List.filterMap_cons, htagat, List.filterMap_nil,
      List.getLast?_concat]
  · have hle := (h.encodes _ (List.getElem_mem hlt) newest htagi).1
    rcases Nat.eq_or_lt_of_le hki with heq | hlt
    · subst heq
      rw [stateTagAt_eq hgetk hstate, htag, Option.some.injEq] at htagat
      rw [← htagat, hnumber]
    · have hge := h.ordered_at hlt ((stateTagAt_eq hgetk hstate).trans htag) htagat
      omega

end

-- What the wire carries of the inputs. `origin` tells for each report that was handed
-- over which of the pump's operations had queued it.
structure InputOrder (run : SlotRun) (origin : List Nat) : Prop where
  -- The state reports are queued in the order of the inputs they encode.
  queued : (run.data.history.events.filterMap PumpEvent.tag).Pairwise
    fun a b => a.number ≤ b.number
  encoded : ∀ event ∈ run.data.history.events, event.isState = true →
    ∃ tag, event.tag = some tag ∧ Encodes run.data.history.inputs event tag
  -- They leave in that order.
  sent : List.Forall₂ (fun i sent => ∃ report kind,
    ReportPump.offeredAt (run.data.history.events.map PumpEvent.op) i = some (report, kind) ∧
      SentAs report sent) origin run.taken
  wire : (origin.filterMap (stateTagAt run.data.history.events)).Pairwise
    fun a b => a.number ≤ b.number

-- The last state report that left carries the last input.
def EndsWithLast (run : SlotRun) (origin : List Nat) : Prop :=
  ∀ request, run.data.history.inputs.getLast? = some request →
    ∃ tag, (origin.filterMap (stateTagAt run.data.history.events)).getLast? = some tag ∧
      tag.number = run.data.history.inputs.length ∧
        inputAt run.data.history.inputs tag.number = request

-- No operation holds a state report, and none waits in the pump.
structure Drained (run : SlotRun) : Prop where
  held : ∀ entry ∈ run.pending, ∀ report ∈ entry.step.given, report.tag = none
  waiting : ∀ entry ∈ run.data.pump.waiting, entry.2 = true
  latest : run.data.pump.haveLatest = false

theorem forall₂_through {α β γ : Type} {R : α → β → Prop} {S : β → γ → Prop} {as : List α}
    {bs : List β} {cs : List γ} (h : List.Forall₂ R as bs) (h' : List.Forall₂ S bs cs) :
    List.Forall₂ (fun a c => ∃ b, R a b ∧ S b c) as cs := by
  induction h generalizing cs with
  | nil =>
      cases h'
      exact .nil
  | cons hab _ ih =>
      cases h' with
      | cons hbc hrest => exact .cons ⟨_, hab, hbc⟩ (ih hrest)

-- From its creation on, under every interleaving of the sections of its operations, a
-- slot's state reports carry the inputs in order; and where every section finds the slot
-- in use, the last state report to leave a drained pump carries the last input.
theorem input_order (controllerId : UInt32) (profile : Profile) (ops : List SlotOp) :
    ∃ origin, InputOrder ((SlotRun.created controllerId profile).runFrom ops) origin ∧
      ((∀ op ∈ ops, (SlotRun.sectionOf op).acceptsVhfCallbacks = true) →
        Drained ((SlotRun.created controllerId profile).runFrom ops) →
          EndsWithLast ((SlotRun.created controllerId profile).runFrom ops) origin) := by
  have horderly := SlotRun.runFrom_invariant (Orderly.created controllerId profile) ops
    fun _ hrun op _ _ _ hruns => hrun.execute (SlotRun.sectionOf op) hruns
  have hdelivers : Delivers ((SlotRun.created controllerId profile).runFrom ops) :=
    SlotRun.runFrom_invariant ⟨.created controllerId profile, .nil⟩ ops
      fun _ hrun op _ _ _ hruns => hrun.execute (SlotRun.sectionOf op) hruns
  have hstart : (SlotRun.created controllerId profile).Settled := .inl rfl
  have hsettled : (∀ op ∈ ops, (SlotRun.sectionOf op).acceptsVhfCallbacks = true) →
      ((SlotRun.created controllerId profile).runFrom ops).Settled := fun haccepts =>
    SlotRun.runFrom_invariant hstart ops
      fun _ hrun op hmem _ _ hruns => hrun.execute (haccepts op hmem) hruns
  generalize (SlotRun.created controllerId profile).runFrom ops = run at *
  obtain ⟨origin, horigin, hordered, hdrained⟩ := ReportPump.taken_in_order_and_fresh .zero
    (run.data.history.events.map PumpEvent.op)
  refine ⟨origin, ⟨horderly.order.ordered, fun event hmem hstate => ?_, ?_,
    horderly.order.wire hordered⟩, fun haccepts hidle request hrequest => ?_⟩
  · obtain ⟨tag, htag⟩ := Option.isSome_iff_exists.mp (horderly.order.tagged event hmem hstate)
    exact ⟨tag, htag, horderly.order.encodes event hmem tag htag⟩
  · have hsent := hdelivers.sent
    rw [SlotData.handedOut, List.forall₂_map_left_iff] at hsent
    refine (forall₂_through horigin hsent).imp ?_
    rintro i sent ⟨taken, ⟨-, kind, hoffered⟩, hsent⟩
    exact ⟨taken.report, kind, hoffered, hsent⟩
  · have hlines := hdelivers.recording.recorded.lines
    have hwaiting : run.data.recorded.pump.waiting = run.data.pump.waiting :=
      (congrArg Queues.ring hlines.queues).symm
    have hreported : Reported run.data := by
      rcases hsettled haccepts with hnone | hreported | ⟨entry, hmem, -, report, hgiven, -, -, tag, htag, -⟩
      · rw [hnone] at hrequest
        exact absurd hrequest (by simp)
      · exact hreported
      · rw [hidle.held entry hmem report hgiven] at htag
        exact absurd htag (by simp)
    have hlatest : run.data.recorded.pump.haveLatest = false := by
      have hsame := congrArg Queues.latest hlines.queues
      simp only [ReportPump.queues, hidle.latest] at hsame
      cases hlatest : run.data.recorded.pump.haveLatest with
      | false => rfl
      | true =>
          rw [hlatest] at hsame
          exact absurd hsame (by simp)
    have hlast := hdrained (hwaiting ▸ hidle.waiting) hlatest
    rw [List.length_map] at hlast
    obtain ⟨tag, htag, hnumber⟩ := horderly.order.drained hreported hlast
    refine ⟨tag, htag, hnumber, ?_⟩
    obtain ⟨front, hfront⟩ := List.getLast?_eq_some_iff.mp hrequest
    rw [hnumber, hfront]
    exact inputAt_last front request

end LibVirtualGamepad
