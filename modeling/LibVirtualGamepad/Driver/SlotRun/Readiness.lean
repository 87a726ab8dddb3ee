import LibVirtualGamepad.Driver.SlotRun.Recorded

-- VHF's readiness: a report that waits finds it used, or a section that is to use it,
-- and each grant lets one report go.
namespace LibVirtualGamepad

def SlotStep.pumps : SlotStep → Bool
  | .pumpReport .. => true
  | _ => false

-- The pump has given its readiness up, or has nothing to give it up for.
def Idle (data : SlotData) : Prop := data.pump.ready = true → data.pump.empty = true

section

variable {step : SlotStep} {data data' : SlotData}

theorem Idle.congr (h : Idle data) (hlines : ReportPump.SameLines data.pump data'.pump) :
    Idle data' := by
  intro hready
  rw [ReportPump.empty_iff, hlines.queues, ← ReportPump.empty_iff]
  exact h (hlines.ready ▸ hready)

theorem idle_takeReport (data : SlotData) (now : UInt64) : Idle (data.takeReport now).2 := by
  obtain ⟨hlines, -⟩ := takeReport_lines data now
  intro hready
  rw [ReportPump.empty_iff, hlines.queues]
  rw [hlines.ready] at hready
  rcases ReportPump.take_cases data.pump with ⟨-, hsame, hempty⟩ | ⟨report, -, -, hused, -⟩
  · rw [hsame] at hready ⊢
    exact hempty hready
  · rw [hused] at hready
    exact absurd hready (by simp)

-- Whichever section of the pump runs, it leaves no report behind that could go.
theorem idle_pumpReport {s : Section} (haccepts : s.acceptsVhfCallbacks = true)
    (report : Option QueuedReport) (answers : Bool) (data : SlotData) :
    Idle (s.pumpReport report answers data).data := by
  unfold Section.pumpReport Section.pumpReportLocked
  rw [if_pos haccepts]
  exact idle_takeReport _ _

-- Only the section of a readiness callback sets the readiness, and none touches the
-- buffer that VHF may still hold.
theorem Queued.grants (h : Queued step data data') :
    data'.pump.inFlight = data.pump.inFlight ∧
      (data'.pump.ready = data.pump.ready ∨ step = .ready) := by
  induction h with
  | same hsame => exact ⟨hsame.inFlight, .inl hsame.ready⟩
  | enqueue _ report _ hsame ih =>
      obtain ⟨hready, hbuffer⟩ := ReportPump.enqueue_keeps _ (some report.bytes) report.reportId
        report.kind
      refine ⟨(hsame.inFlight.trans hbuffer).trans ih.1, ?_⟩
      rcases ih.2 with hsameReady | hstep
      · exact .inl ((hsame.ready.trans hready).trans hsameReady)
      · exact .inr hstep
  | ready _ hgrants hsame ih => exact ⟨hsame.inFlight.trans ih.1, .inr hgrants⟩

end

namespace SlotRun

-- A section of the pump is about to run.
def Served (run : SlotRun) : Prop := ∃ entry ∈ run.pending, entry.step.pumps = true

def Unstranded (run : SlotRun) : Prop := Idle run.data ∨ run.Served

theorem Unstranded.execute {run : SlotRun} (h : run.Unstranded) {s : Section}
    (haccepts : s.acceptsVhfCallbacks = true) {entry : InProgress} {rest : List InProgress}
    (hruns : run.Runs entry rest) : (run.execute s entry rest).Unstranded := by
  cases hpumps : entry.step.pumps with
  | true =>
      obtain ⟨request, step⟩ := entry
      cases step with
      | pumpReport report answers => exact .inl (idle_pumpReport haccepts report answers run.data)
      | _ => exact absurd hpumps (by simp [SlotStep.pumps])
  | false =>
      -- Any other section leaves the pump's section waiting that was there.
      have hserved : run.Served → (run.execute s entry rest).Served := by
        rintro ⟨other, hmem, hother⟩
        refine ⟨other, List.mem_append_left _ ?_, hother⟩
        cases hruns with
        | enters _ _ => exact hmem
        | resumes hpending =>
            rw [hpending] at hmem
            rcases List.mem_append.mp hmem with hmem | hmem
            · exact List.mem_append_left _ hmem
            · rcases List.mem_cons.mp hmem with rfl | hmem
              · rw [hpumps] at hother
                exact absurd hother (by simp)
              · exact List.mem_append_right _ hmem
      have hkeeps : ReportPump.SameLines run.data.pump (run.execute s entry rest).data.pump →
          (run.execute s entry rest).Unstranded := by
        intro hlines
        rcases h with hidle | hwaits
        · exact .inl (hidle.congr hlines)
        · exact .inr (hserved hwaits)
      obtain ⟨base, hkept, hhandles⟩ := entry.step.handles s run.data
      have hbase : base.pump = run.data.pump := by
        rcases hkept with rfl | ⟨owner, request, -, rfl⟩ <;> rfl
      cases hhandles with
      | nothing same submit next => exact hkeeps (hbase ▸ ⟨same.ready, same.queues⟩)
      | queues queued accepts submit next =>
          refine .inr ⟨⟨entry.request, .pumpReport none false⟩, List.mem_append_right _ ?_, rfl⟩
          rw [next]
          exact List.mem_singleton_self _
      | refused queued accepts submit next =>
          rw [haccepts] at accepts
          exact absurd accepts (by simp)
      | full queued accepts pump submit next =>
          have hpump : (run.execute s entry rest).data.pump = run.data.pump := pump.trans hbase
          exact hkeeps (hpump ▸ ⟨rfl, rfl⟩)
      | takes mid queued accepts data submit next =>
          have hdata : (run.execute s entry rest).data = (mid.takeReport s.now).2 := data
          exact .inl (hdata ▸ idle_takeReport mid s.now)

-- What one section does with the readiness.
inductive Grant (run : SlotRun) (step : SlotStep) (after : SlotRun) : Prop where
  | keeps (taken : after.taken = run.taken) (inFlight : after.data.pump.inFlight = run.data.pump.inFlight)
    (ready : after.data.pump.ready = run.data.pump.ready ∨ step = .ready)
  | takes (taken : after.taken = run.taken ++ [after.data.pump.inFlight])
    (used : after.data.pump.ready = false)
    (ready : run.data.pump.ready = true ∨ step = .ready)

theorem grant_execute (run : SlotRun) (s : Section) (entry : InProgress) (rest : List InProgress) :
    Grant run entry.step (run.execute s entry rest) := by
  obtain ⟨base, hkept, hhandles⟩ := entry.step.handles s run.data
  have hbase : base.pump = run.data.pump := by
    rcases hkept with rfl | ⟨owner, request, -, rfl⟩ <;> rfl
  have hquiet : (entry.step.run s run.data).submit = false →
      (run.execute s entry rest).taken = run.taken := by
    intro hsubmit
    simp [execute, hsubmit]
  have hqueued : (entry.step.run s run.data).submit = false →
      Queued entry.step base (entry.step.run s run.data).data →
      Grant run entry.step (run.execute s entry rest) := by
    intro hsubmit hqueued
    obtain ⟨hbuffer, hready⟩ := hqueued.grants
    rw [hbase] at hbuffer hready
    exact .keeps (hquiet hsubmit) hbuffer hready
  cases hhandles with
  | nothing same submit next => exact hqueued submit (.same same)
  | queues queued accepts submit next => exact hqueued submit queued
  | refused queued accepts submit next => exact hqueued submit queued
  | full queued accepts pump submit next => exact hqueued submit queued
  | takes mid queued accepts data submit next =>
      obtain ⟨hbuffer, hready⟩ := queued.grants
      rw [hbase] at hbuffer hready
      have hdata : (run.execute s entry rest).data = (mid.takeReport s.now).2 := data
      obtain ⟨hlines, -, -, -, hsome⟩ := takeReport_lines mid s.now
      have htaken : (run.execute s entry rest).taken = run.taken ++
          if mid.pump.take.1.isSome then [(mid.takeReport s.now).2.pump.inFlight] else [] := by
        simp only [execute, submit, hsome, data]
      rcases ReportPump.take_cases mid.pump with ⟨hnone, -⟩ | ⟨report, hsome, hwas, hused, -⟩
      · obtain ⟨-, hsame, -⟩ := takeReport_none s.now hnone
        refine .keeps ?_ ?_ ?_
        · rw [htaken, hnone]
          exact List.append_nil _
        · rw [hdata, hsame]
          exact hbuffer
        · rw [hdata, hsame]
          exact hready
      · refine .takes ?_ ?_ ?_
        · rw [htaken, hsome, hdata]
          rfl
        · rw [hdata, hlines.ready, hused]
        · rcases hready with hsameReady | hstep
          · exact .inl (hsameReady ▸ hwas)
          · exact .inr hstep

end SlotRun

-- Whether an operation is a readiness callback.
def SlotOp.grants : SlotOp → Bool
  | .enter _ .ready => true
  | _ => false

namespace SlotRun

theorem Grant.step {run : SlotRun} (hwaiting : run.Waiting) (op : SlotOp) :
    run.step op = run ∨ ∃ step, (op.grants = false → step ≠ .ready) ∧ Grant run step (run.step op) := by
  rcases step_cases run op with hsame | ⟨entry, rest, hruns, hop, hstep⟩
  · exact .inl hsame
  · refine .inr ⟨entry.step, fun hgrants hready => ?_, ?_⟩
    · rcases hop with hop | hmem
      · rw [hop, hready] at hgrants
        exact absurd hgrants (by simp [SlotOp.grants])
      · have henters := hwaiting entry hmem
        rw [hready] at henters
        exact absurd henters (by simp [SlotStep.enters])
    · rw [hstep]
      exact grant_execute run _ entry rest

theorem Waiting.step {run : SlotRun} (h : run.Waiting) (op : SlotOp) : (run.step op).Waiting := by
  rcases step_cases run op with hsame | ⟨entry, rest, hruns, -, hstep⟩
  · rw [hsame]
    exact h
  · rw [hstep]
    exact h.execute _ hruns

theorem Waiting.runFrom {run : SlotRun} (h : run.Waiting) (ops : List SlotOp) :
    (run.runFrom ops).Waiting := by
  induction ops generalizing run with
  | nil => exact h
  | cons op rest ih => exact ih (h.step op)

def credit (run : SlotRun) : Nat := if run.data.pump.ready then 1 else 0

-- A report goes out against readiness that was there or came with the callback.
theorem credit_step {run : SlotRun} (hwaiting : run.Waiting) (op : SlotOp) :
    (run.step op).taken.length + (run.step op).credit ≤
      run.taken.length + run.credit + if op.grants then 1 else 0 := by
  have hle : ∀ other : SlotRun, other.credit ≤ 1 := by
    intro other
    unfold credit
    split <;> omega
  rcases Grant.step hwaiting op with hsame | ⟨step, hstep, hgrant⟩
  · rw [hsame]
    omega
  · have hready : ∀ b : Bool, (b = true ∨ step = .ready) →
        1 ≤ (if b then 1 else 0) + if op.grants then 1 else 0 := by
      intro b hb
      cases hgrants : op.grants with
      | true => simp
      | false =>
          rcases hb with rfl | hb
          · simp
          · exact absurd hb (hstep hgrants)
    cases hgrant with
    | keeps taken inFlight ready =>
        rw [taken]
        rcases ready with ready | ready
        · have hcredit : (run.step op).credit = run.credit := by
            unfold credit
            rw [ready]
          omega
        · have hpaid := hready run.data.pump.ready (.inr ready)
          have hafter := hle (run.step op)
          unfold credit at hafter ⊢
          omega
    | takes taken used ready =>
        have hpaid := hready _ ready
        have hlen : (run.step op).taken.length = run.taken.length + 1 := by
          rw [taken, List.length_append]
          rfl
        have hnone : (run.step op).credit = 0 := by
          unfold credit
          rw [used]
          rfl
        unfold credit at hnone ⊢
        omega

theorem credit_runFrom {run : SlotRun} (hwaiting : run.Waiting) (ops : List SlotOp) :
    (run.runFrom ops).taken.length + (run.runFrom ops).credit ≤
      run.taken.length + run.credit + ops.countP SlotOp.grants := by
  induction ops generalizing run with
  | nil => exact Nat.le_refl _
  | cons op rest ih =>
      have hrest := ih (hwaiting.step op)
      have hstep := credit_step hwaiting op
      rw [List.countP_cons]
      have hrun : run.runFrom (op :: rest) = (run.step op).runFrom rest := rfl
      rw [hrun]
      omega

-- Without a grant nothing more goes out, and the buffer stays as it is.
theorem retained_runFrom {run : SlotRun} (hwaiting : run.Waiting)
    (hused : run.data.pump.ready = false) (ops : List SlotOp)
    (hgrants : ∀ op ∈ ops, op.grants = false) :
    (run.runFrom ops).taken = run.taken ∧
      (run.runFrom ops).data.pump.inFlight = run.data.pump.inFlight := by
  induction ops generalizing run with
  | nil => exact ⟨rfl, rfl⟩
  | cons op rest ih =>
      have hkept : (run.step op).taken = run.taken ∧
          (run.step op).data.pump.inFlight = run.data.pump.inFlight ∧
            (run.step op).data.pump.ready = false := by
        rcases Grant.step hwaiting op with hsame | ⟨step, hstep, hgrant⟩
        · rw [hsame]
          exact ⟨rfl, rfl, hused⟩
        · have hno := hstep (hgrants op (List.mem_cons_self ..))
          cases hgrant with
          | keeps taken inFlight ready =>
              exact ⟨taken, inFlight, (ready.resolve_right hno).trans hused⟩
          | takes taken used ready =>
              rw [hused] at ready
              exact absurd (ready.resolve_right hno) (by simp)
      obtain ⟨htaken, hbuffer, hready⟩ := hkept
      obtain ⟨hrest, hrestBuffer⟩ := ih (hwaiting.step op) hready
        fun other hmem => hgrants other (List.mem_cons_of_mem _ hmem)
      exact ⟨hrest.trans htaken, hrestBuffer.trans hbuffer⟩

theorem runFrom_append (run : SlotRun) (ops ops' : List SlotOp) :
    run.runFrom (ops ++ ops') = (run.runFrom ops).runFrom ops' := by
  simp only [runFrom, List.foldl_append]

end SlotRun

-- What becomes of the reports of a slot that VHF may call back for.
structure ReportsServed (controllerId : UInt32) (profile : Profile) (ops : List SlotOp) : Prop where
  -- Whenever no operation is between its sections, no report waits that could go.
  unstranded : ((SlotRun.created controllerId profile).runFrom ops).pending = [] →
    ¬(((SlotRun.created controllerId profile).runFrom ops).data.pump.ready = true ∧
      ((SlotRun.created controllerId profile).runFrom ops).data.pump.empty = false)
  granted : ((SlotRun.created controllerId profile).runFrom ops).taken.length ≤
    ops.countP SlotOp.grants
  -- The buffer of a report that went out is VHF's until the next callback.
  retained : ∀ before op after, ops = before ++ op :: after →
    (((SlotRun.created controllerId profile).runFrom before).step op).taken ≠
      ((SlotRun.created controllerId profile).runFrom before).taken →
    (∀ other ∈ after, other.grants = false) →
    ((SlotRun.created controllerId profile).runFrom ops).taken =
        (((SlotRun.created controllerId profile).runFrom before).step op).taken ∧
      ((SlotRun.created controllerId profile).runFrom ops).data.pump.inFlight =
        (((SlotRun.created controllerId profile).runFrom before).step op).data.pump.inFlight

theorem no_stranded_report (controllerId : UInt32) (profile : Profile) (ops : List SlotOp)
    (haccepts : ∀ op ∈ ops, (SlotRun.sectionOf op).acceptsVhfCallbacks = true) :
    ReportsServed controllerId profile ops := by
  have hwaiting : (SlotRun.created controllerId profile).Waiting := by
    intro entry hmem
    exact absurd hmem (by simp [SlotRun.created])
  refine ⟨fun hpending hstranded => ?_, ?_, ?_⟩
  · have hidle : (SlotRun.created controllerId profile).Unstranded := by
      refine .inl fun hready => absurd hready ?_
      simp [SlotRun.created, SlotData.created, ReportPump.reset]
    have hafter := SlotRun.runFrom_invariant hidle ops fun run hrun op hmem entry rest hruns =>
      hrun.execute (haccepts op hmem) hruns
    rcases hafter with hafter | ⟨entry, hmem, -⟩
    · rw [hafter hstranded.1] at hstranded
      exact absurd hstranded.2 (by simp)
    · rw [hpending] at hmem
      exact absurd hmem (by simp)
  · have hcredit := SlotRun.credit_runFrom hwaiting ops
    have hstart : (SlotRun.created controllerId profile).taken.length +
        (SlotRun.created controllerId profile).credit = 0 := by
      simp [SlotRun.created, SlotRun.credit, SlotData.created, ReportPump.reset]
    omega
  · intro before op after hops htook hgrants
    have hbefore := hwaiting.runFrom before
    have hused : (((SlotRun.created controllerId profile).runFrom before).step op).data.pump.ready =
        false := by
      rcases SlotRun.Grant.step hbefore op with hsame | ⟨step, -, hgrant⟩
      · exact absurd (by rw [hsame]) htook
      · cases hgrant with
        | keeps taken inFlight ready => exact absurd taken htook
        | takes taken used ready => exact used
    have hrun : (SlotRun.created controllerId profile).runFrom ops =
        (((SlotRun.created controllerId profile).runFrom before).step op).runFrom after := by
      rw [hops, SlotRun.runFrom_append]
      rfl
    rw [hrun]
    exact SlotRun.retained_runFrom (hbefore.step op) hused after hgrants

-- An input that waits for its reader.
private def readerSection : Section where
  flags := ⟨false, true, true, false, false⟩
  control := { generation := 1, vhf := some 0, owner := some 7, state := .active, submitsInFlight := 0 }
  controllerId := 0
  now := 0

private def inputThenReader : List SlotOp :=
  [.enter readerSection (.input 7 .zero), .resume readerSection 0, .enter readerSection .ready]

theorem no_stranded_report_reader :
    ReportsServed 0 .xboxSeries inputThenReader ∧
      ((SlotRun.created 0 .xboxSeries).runFrom inputThenReader).taken.length = 1 :=
  ⟨no_stranded_report 0 .xboxSeries _ (by decide), by decide⟩

end LibVirtualGamepad
