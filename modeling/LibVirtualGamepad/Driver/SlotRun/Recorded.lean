import LibVirtualGamepad.Driver.SlotRun

-- The record of a slot's pump is a run of the pump, and all reports in the pump have a
-- byte behind their id.
namespace LibVirtualGamepad

namespace SlotData

-- The pump's run as the record has it.
def recorded (data : SlotData) : ReportPump.PumpRun :=
  ReportPump.runFrom .zero (data.history.events.map PumpEvent.op)

-- The reports as the pump handed them out, oldest first.
def handedOut (data : SlotData) : List ReportBuffer :=
  data.recorded.taken.map ReportPump.TakenReport.report

end SlotData

structure Recorded (data : SlotData) : Prop where
  lines : ReportPump.SameLines data.recorded.pump data.pump
  sized : data.pump.queues.Sorted fun report _ => 2 ≤ report.data.length

-- A report that waits for its section.
def SlotStep.sized (step : SlotStep) : Prop := ∀ report ∈ step.given, 2 ≤ report.bytes.length

section

variable {step : SlotStep} {data data' : SlotData}

theorem recorded_log (op : ReportPump.PumpOp) (tag : Option StateTag)
    (h : data'.history.events = data.history.events ++ [⟨op, tag⟩]) :
    data'.recorded = data.recorded.step op := by
  simp only [SlotData.recorded, ReportPump.runFrom, h, List.map_append, List.map_cons,
    List.map_nil, List.foldl_append, List.foldl_cons, List.foldl_nil]

theorem Recorded.congr (h : Recorded data) (hsame : SameReports data data') : Recorded data' := by
  have hrecorded : data'.recorded = data.recorded := by
    simp only [SlotData.recorded, hsame.history]
  refine ⟨⟨?_, ?_⟩, ?_⟩
  · rw [hsame.ready, hrecorded]
    exact h.lines.ready
  · rw [hsame.queues, hrecorded]
    exact h.lines.queues
  · rw [hsame.queues]
    exact h.sized

theorem sized_enqueue {pump : ReportPump} {report : QueuedReport}
    (h : pump.queues.Sorted fun report _ => 2 ≤ report.data.length)
    (hsized : 2 ≤ report.bytes.length) :
    (pump.enqueue (some report.bytes) report.reportId report.kind).2.queues.Sorted
      fun report _ => 2 ≤ report.data.length := by
  match hbytes : report.bytes with
  | [] =>
    rw [hbytes] at hsized
    exact absurd hsized (by decide)
  | byte :: bytes =>
    rw [ReportPump.queues_enqueue]
    refine Queues.sorted_enqueue _ _ _ _ h ?_
    rw [hbytes] at hsized
    have hcapacity : maxReportBytes = 64 := rfl
    simp only [ReportBuffer.store, List.length_take]
    omega

theorem Recorded.enqueue (h : Recorded data) {report : QueuedReport}
    (hsized : 2 ≤ report.bytes.length) : Recorded (data.enqueue report).2 := by
  refine ⟨?_, sized_enqueue h.sized hsized⟩
  rw [recorded_log (.enqueue (some report.bytes) report.reportId report.kind) report.tag rfl]
  exact h.lines.enqueue _ _ _

theorem Recorded.setReady (h : Recorded data) : Recorded data.setReady := by
  refine ⟨?_, h.sized⟩
  rw [recorded_log .setReady none rfl]
  exact h.lines.setReady

-- Queueing hands nothing out and leaves the stream's number alone.
structure Kept (data data' : SlotData) : Prop where
  handedOut : data'.handedOut = data.handedOut
  inFlight : data'.pump.inFlight = data.pump.inFlight
  wireSequence : data'.sc26WireSequence = data.sc26WireSequence
  selectedProfile : data'.selectedProfile = data.selectedProfile

theorem Kept.of_same (hsame : SameReports data data') : Kept data data' := by
  refine ⟨?_, hsame.inFlight, hsame.wireSequence, hsame.selectedProfile⟩
  simp only [SlotData.handedOut, SlotData.recorded, hsame.history]

theorem Kept.trans {mid : SlotData} (h : Kept data mid) (h' : Kept mid data') : Kept data data' :=
  ⟨h'.handedOut.trans h.handedOut, h'.inFlight.trans h.inFlight,
    h'.wireSequence.trans h.wireSequence, h'.selectedProfile.trans h.selectedProfile⟩

theorem kept_enqueue (data : SlotData) (report : QueuedReport) :
    Kept data (data.enqueue report).2 := by
  refine ⟨?_, (ReportPump.enqueue_keeps _ _ _ _).2, rfl, rfl⟩
  rw [SlotData.handedOut, recorded_log (.enqueue (some report.bytes) report.reportId report.kind)
    report.tag rfl]
  rfl

theorem kept_setReady (data : SlotData) : Kept data data.setReady := by
  refine ⟨?_, rfl, rfl, rfl⟩
  rw [SlotData.handedOut, recorded_log .setReady none rfl]
  rfl

theorem Queued.recorded (h : Queued step data data') (hrecorded : Recorded data)
    (hgiven : step.sized) : Recorded data' ∧ Kept data data' := by
  induction h with
  | same hsame => exact ⟨hrecorded.congr hsame, .of_same hsame⟩
  | enqueue _ report carried hsame ih =>
      obtain ⟨hmid, hkept⟩ := ih
      have hsized : 2 ≤ report.bytes.length := by
        rcases carried with carried | hreport
        · exact carried.sized
        · exact hgiven report hreport
      exact ⟨(hmid.enqueue hsized).congr hsame,
        (hkept.trans (kept_enqueue _ report)).trans (.of_same hsame)⟩
  | ready _ _ hsame ih =>
      obtain ⟨hmid, hkept⟩ := ih
      exact ⟨hmid.setReady.congr hsame, (hkept.trans (kept_setReady _)).trans (.of_same hsame)⟩

-- The stamp is the only thing a taken report's section adds to the pump's take.
theorem takeReport_lines (data : SlotData) (now : UInt64) :
    ReportPump.SameLines data.pump.take.2 (data.takeReport now).2.pump ∧
      (data.takeReport now).2.history.events = data.history.events ++ [⟨.take, none⟩] ∧
      (data.takeReport now).2.history.inputs = data.history.inputs ∧
      (data.takeReport now).2.lastInput = data.lastInput ∧
      (data.takeReport now).1.isSome = data.pump.take.1.isSome := by
  rcases hout : data.pump.take with ⟨taken, pump⟩
  cases taken with
  | none =>
      have hafter : data.takeReport now =
          (none, { data with pump := pump, history := data.log .take none }) := by
        simp only [SlotData.takeReport, hout]
      rw [hafter]
      exact ⟨⟨rfl, rfl⟩, rfl, rfl, rfl, rfl⟩
  | some report =>
      let mid : SlotData := { data with pump := pump, history := data.log .take none }
      have hafter : data.takeReport now =
          (some (mid.isSc26State report), mid.markSc26ReportTaken now report) := by
        simp only [SlotData.takeReport, hout, mid]
      rw [hafter]
      unfold SlotData.markSc26ReportTaken
      split
      · split <;> exact ⟨⟨rfl, rfl⟩, rfl, rfl, rfl, rfl⟩
      · exact ⟨⟨rfl, rfl⟩, rfl, rfl, rfl, rfl⟩

theorem takeReport_none {mid : SlotData} (now : UInt64) (hout : mid.pump.take.1 = none) :
    (mid.takeReport now).1 = none ∧ (mid.takeReport now).2.pump = mid.pump ∧
      (mid.takeReport now).2.sc26WireSequence = mid.sc26WireSequence ∧
      (mid.takeReport now).2.selectedProfile = mid.selectedProfile := by
  have hpump : mid.pump.take.2 = mid.pump := by
    rcases ReportPump.take_cases mid.pump with ⟨-, hsame, -⟩ | ⟨other, hsome, -⟩
    · exact hsame
    · rw [hout] at hsome
      exact absurd hsome (by simp)
  rcases htake : mid.pump.take with ⟨taken, pump⟩
  rw [htake] at hout hpump
  obtain rfl : taken = none := hout
  simp only [SlotData.takeReport, htake, hpump, and_self]

-- A take hands out what the record's pump hands out; the stamp changes only the buffer
-- and the stream's number.
theorem Recorded.takeReport (h : Recorded data) (now : UInt64) :
    Recorded (data.takeReport now).2 ∧
      (data.takeReport now).2.handedOut = data.handedOut ++ data.pump.take.1.toList ∧
      ∀ report ∈ data.pump.take.1, 2 ≤ report.data.length := by
  have htake := h.lines.take
  have hsorted : data.pump.take.2.queues.Sorted (fun report _ => 2 ≤ report.data.length) ∧
      ∀ report ∈ data.pump.take.1, 2 ≤ report.data.length := by
    cases hready : data.pump.ready with
    | false =>
        rw [ReportPump.take_not_ready _ hready]
        exact ⟨h.sized, by simp⟩
    | true =>
        obtain ⟨hout, hqueues⟩ := ReportPump.queues_take _ hready
        obtain ⟨hsorted, hbelongs⟩ := Queues.sorted_take _ _ h.sized
        refine ⟨hqueues ▸ hsorted, fun report hmem => ?_⟩
        rw [hout] at hmem
        obtain ⟨taken, htaken, rfl⟩ := Option.map_eq_some_iff.mp hmem
        exact hbelongs taken htaken
  obtain ⟨hlines, hevents, -⟩ := takeReport_lines data now
  refine ⟨⟨?_, hlines.queues ▸ hsorted.1⟩, ?_, hsorted.2⟩
  · rw [recorded_log .take none hevents]
    exact ⟨hlines.ready.trans htake.2.ready, hlines.queues.trans htake.2.queues⟩
  · rw [SlotData.handedOut, recorded_log .take none hevents, htake.1]
    simp only [ReportPump.PumpRun.step, List.map_append, SlotData.handedOut]
    cases data.recorded.pump.take.1 <;> rfl

end

namespace SlotData

-- A report as it goes out: a Steam Controller's state report gets the stream's number.
def stamped (data : SlotData) (report : ReportBuffer) : ReportBuffer :=
  if data.isSc26State report then report.setByte 1 data.sc26WireSequence else report

def nextSequence (data : SlotData) (report : ReportBuffer) : UInt8 :=
  if data.isSc26State report then data.sc26WireSequence + 1 else data.sc26WireSequence

end SlotData

theorem takeReport_some {mid : SlotData} (now : UInt64) {report : ReportBuffer}
    (hout : mid.pump.take.1 = some report) (hsized : 2 ≤ report.data.length) :
    (mid.takeReport now).2.pump.inFlight = mid.stamped report ∧
      (mid.takeReport now).2.sc26WireSequence = mid.nextSequence report ∧
      (mid.takeReport now).2.selectedProfile = mid.selectedProfile ∧
      (mid.takeReport now).1.isSome = true := by
  have hinFlight : mid.pump.take.2.inFlight = report := by
    rcases ReportPump.take_cases mid.pump with ⟨hnone, -⟩ | ⟨other, hsome, -, -, hbuffer⟩
    · rw [hout] at hnone
      exact absurd hnone (by simp)
    · rw [hout, Option.some.injEq] at hsome
      rw [hbuffer, hsome]
  rcases htake : mid.pump.take with ⟨taken, pump⟩
  rw [htake] at hout hinFlight
  obtain rfl : taken = some report := hout
  have hstate : ({ mid with pump := pump, history := mid.log .take none } : SlotData).isSc26State
      report = mid.isSc26State report := rfl
  have hlong : report.data.length > 1 := hsized
  simp only [SlotData.takeReport, htake, SlotData.markSc26ReportTaken, hstate, SlotData.stamped,
    SlotData.nextSequence]
  cases mid.isSc26State report with
  | false => exact ⟨hinFlight, rfl, rfl, rfl⟩
  | true => simp only [if_true, if_pos hlong, Option.isSome_some, and_self]

-- The reports of a run's record, its pump and its waiting sections are sound.
structure Recording (run : SlotRun) : Prop where
  recorded : Recorded run.data
  pending : ∀ entry ∈ run.pending, entry.step.sized
  handed : ∀ report ∈ run.data.handedOut, 2 ≤ report.data.length

-- What one section hands over.
inductive HandsOver (run after : SlotRun) : Prop where
  | nothing (kept : Kept run.data after.data) (taken : after.taken = run.taken)
  | report (report : ReportBuffer)
    (handedOut : after.data.handedOut = run.data.handedOut ++ [report])
    (taken : after.taken = run.taken ++ [run.data.stamped report])
    (wireSequence : after.data.sc26WireSequence = run.data.nextSequence report)
    (selectedProfile : after.data.selectedProfile = run.data.selectedProfile)

theorem Kept.stamped {data data' : SlotData} (h : Kept data data') (report : ReportBuffer) :
    data'.stamped report = data.stamped report ∧
      data'.nextSequence report = data.nextSequence report := by
  have hstate : data'.isSc26State report = data.isSc26State report := by
    rw [SlotData.isSc26State, SlotData.isSc26State, h.selectedProfile]
  simp only [SlotData.stamped, SlotData.nextSequence, hstate, h.wireSequence, and_self]

namespace Recording

variable {run : SlotRun}

theorem created (controllerId : UInt32) (profile : Profile) :
    Recording (.created controllerId profile) where
  recorded := ⟨⟨rfl, rfl⟩, Queues.sorted_empty _⟩
  pending := by simp [SlotRun.created]
  handed := by simp [SlotRun.created, SlotData.handedOut, SlotData.recorded, SlotData.created,
    SlotData.zero, SlotHistory.empty, ReportPump.runFrom]

-- A section that enters was called with no report.
theorem sized (h : Recording run) {entry : InProgress} {rest : List InProgress}
    (hruns : run.Runs entry rest) : entry.step.sized ∧ ∀ other ∈ rest, other.step.sized := by
  cases hruns with
  | @enters step henters _ =>
      refine ⟨?_, h.pending⟩
      cases step <;> simp_all [SlotStep.sized, SlotStep.given, SlotStep.enters]
  | resumes hpending =>
      have hmem := h.pending
      rw [hpending] at hmem
      refine ⟨hmem entry (by simp), fun other hother => hmem other ?_⟩
      rcases List.mem_append.mp hother with hother | hother <;> simp [hother]

theorem sized_next (s : Section) (data : SlotData) (step : SlotStep) :
    ∀ other ∈ (step.run s data).next, other.sized := by
  intro other hother
  rcases step.next_cases s data with hnone | ⟨after, hnext, hprepared⟩
  · rw [hnone] at hother
    exact absurd hother (by simp)
  · rw [hnext, List.mem_singleton] at hother
    subst hother
    intro report hreport
    cases other <;> simp_all [SlotStep.given, Prepared]
    exact hprepared.sized

theorem execute (h : Recording run) (s : Section) {entry : InProgress} {rest : List InProgress}
    (hruns : run.Runs entry rest) :
    Recording (run.execute s entry rest) ∧ HandsOver run (run.execute s entry rest) := by
  obtain ⟨hsized, hrest⟩ := h.sized hruns
  have hpending : ∀ other ∈ (run.execute s entry rest).pending, other.step.sized := by
    intro other hother
    simp only [SlotRun.execute, List.mem_append, List.mem_map] at hother
    rcases hother with hother | ⟨step, hstep, rfl⟩
    · exact hrest other hother
    · exact sized_next s run.data entry.step step hstep
  obtain ⟨base, hkept, hhandles⟩ := entry.step.handles s run.data
  -- Taking an input in touches none of this.
  have hbase : Recorded base ∧ Kept run.data base := by
    rcases hkept with rfl | ⟨owner, request, -, rfl⟩
    · exact ⟨h.recorded, ⟨rfl, rfl, rfl, rfl⟩⟩
    · exact ⟨⟨h.recorded.lines, h.recorded.sized⟩, ⟨rfl, rfl, rfl, rfl⟩⟩
  obtain ⟨hrecorded, hkept⟩ := hbase
  have hnothing : Recorded (run.execute s entry rest).data → Kept run.data (run.execute s entry rest).data →
      (entry.step.run s run.data).submit = false →
      Recording (run.execute s entry rest) ∧ HandsOver run (run.execute s entry rest) := by
    intro hdata hsame hsubmit
    refine ⟨⟨hdata, hpending, hsame.handedOut ▸ h.handed⟩, .nothing hsame ?_⟩
    simp [SlotRun.execute, hsubmit]
  have hqueued : ∀ data, Queued entry.step base data → Recorded data ∧ Kept run.data data := by
    intro data hdata
    obtain ⟨hafter, hsame⟩ := hdata.recorded hrecorded hsized
    exact ⟨hafter, hkept.trans hsame⟩
  cases hhandles with
  | nothing same submit next =>
      exact hnothing (hrecorded.congr same) (hkept.trans (.of_same same)) submit
  | queues queued accepts submit next =>
      obtain ⟨hafter, hsame⟩ := hqueued _ queued
      exact hnothing hafter hsame submit
  | refused queued accepts submit next =>
      obtain ⟨hafter, hsame⟩ := hqueued _ queued
      exact hnothing hafter hsame submit
  | full queued accepts pump submit next =>
      obtain ⟨hafter, hsame⟩ := hqueued _ queued
      exact hnothing hafter hsame submit
  | takes mid queued accepts data submit next =>
      obtain ⟨hmid, hsame⟩ := hqueued mid queued
      obtain ⟨hafter, hhanded, htakenSized⟩ := hmid.takeReport s.now
      have hdata : (run.execute s entry rest).data = (mid.takeReport s.now).2 := data
      cases hout : mid.pump.take.1 with
      | none =>
          obtain ⟨hidle, hpump, hsequence, hprofile⟩ := takeReport_none s.now hout
          rw [hout, Option.toList_none, List.append_nil] at hhanded
          have hmidKept : Kept mid (mid.takeReport s.now).2 :=
            ⟨hhanded, by rw [hpump], hsequence, hprofile⟩
          exact hnothing (hdata ▸ hafter) (hdata ▸ hsame.trans hmidKept)
            (by rw [submit, hidle]; rfl)
      | some report =>
          have hlong := htakenSized report hout
          obtain ⟨hbuffer, hsequence, hprofile, hsome⟩ := takeReport_some s.now hout hlong
          obtain ⟨hstamped, hnext⟩ := hsame.stamped report
          rw [hout, hsame.handedOut, Option.toList_some] at hhanded
          refine ⟨⟨hdata ▸ hafter, hpending, ?_⟩, .report report ?_ ?_ ?_ ?_⟩
          · rw [hdata, hhanded]
            intro other hother
            rcases List.mem_append.mp hother with hother | hother
            · exact h.handed other hother
            · rw [List.mem_singleton.mp hother]
              exact hlong
          · rw [hdata, hhanded]
          · simp only [SlotRun.execute, submit, hsome, if_true, data, hbuffer, hstamped]
          · rw [hdata, hsequence, hnext]
          · rw [hdata, hprofile, hsame.selectedProfile]

end Recording

end LibVirtualGamepad
