import LibVirtualGamepad.Driver.SlotRun.Recorded

-- The numbers on a Steam Controller's state reports: counted as the reports leave.
namespace LibVirtualGamepad

open Sc26Usb

def isStateReport (report : ReportBuffer) : Bool := report.reportId == inputReportId

-- The state reports are numbered from `n` on, nothing else is changed.
def numbered : Nat → List ReportBuffer → List ReportBuffer
  | _, [] => []
  | n, report :: rest =>
    if isStateReport report then report.setByte 1 (UInt8.ofNat n) :: numbered (n + 1) rest
    else report :: numbered n rest

theorem numbered_append (n : Nat) (reports : List ReportBuffer) (report : ReportBuffer) :
    numbered n (reports ++ [report]) = numbered n reports ++
      [if isStateReport report then
        report.setByte 1 (UInt8.ofNat (n + (reports.filter isStateReport).length)) else report] := by
  induction reports generalizing n with
  | nil =>
      cases hstate : isStateReport report <;> simp [numbered, hstate]
  | cons first rest ih =>
      simp only [List.cons_append, numbered]
      cases hstate : isStateReport first with
      | false => simp [ih, hstate]
      | true =>
          have hcount : n + 1 + (rest.filter isStateReport).length =
              n + ((first :: rest).filter isStateReport).length := by
            rw [List.filter_cons_of_pos hstate, List.length_cons]
            omega
          simp only [if_true, ih, hcount, List.cons_append]

theorem numbered_count (n : Nat) (reports : List ReportBuffer) :
    ((numbered n reports).filter isStateReport).length =
      (reports.filter isStateReport).length := by
  induction reports generalizing n with
  | nil => rfl
  | cons first rest ih =>
      cases hstate : isStateReport first with
      | false => simp [numbered, hstate, ih]
      | true =>
          have hkept : isStateReport (first.setByte 1 (UInt8.ofNat n)) = true := hstate
          simp [numbered, hstate, hkept, ih]

-- Without a gap and without a repeat.
theorem numbered_byte (n : Nat) {reports : List ReportBuffer}
    (hsized : ∀ report ∈ reports, 2 ≤ report.data.length) {i : Nat} {report : ReportBuffer}
    (h : ((numbered n reports).filter isStateReport)[i]? = some report) :
    report.data[1]? = some (UInt8.ofNat (n + i)) := by
  induction reports generalizing n i with
  | nil => simp [numbered] at h
  | cons first rest ih =>
      have hrest : ∀ other ∈ rest, 2 ≤ other.data.length :=
        fun other hmem => hsized other (List.mem_cons_of_mem _ hmem)
      cases hstate : isStateReport first with
      | false =>
          simp only [numbered, hstate, Bool.false_eq_true, if_false] at h
          rw [List.filter_cons_of_neg (by simp [hstate])] at h
          exact ih n hrest h
      | true =>
          have hkept : isStateReport (first.setByte 1 (UInt8.ofNat n)) = true := hstate
          simp only [numbered, hstate, if_true] at h
          rw [List.filter_cons_of_pos hkept] at h
          cases i with
          | zero =>
              have hfirst := hsized first (List.mem_cons_self ..)
              rw [List.getElem?_cons_zero, Option.some.injEq] at h
              rw [← h]
              simp only [ReportBuffer.setByte, Nat.add_zero]
              rw [List.getElem?_set_self (by omega)]
          | succ i =>
              rw [List.getElem?_cons_succ] at h
              rw [ih (n + 1) hrest h]
              congr 2
              omega

-- What is handed to VHF is what the pump hands out, the state reports numbered in the
-- order they leave.
structure Numbers (run : SlotRun) : Prop where
  steam : run.data.selectedProfile = .steamController
  recording : Recording run
  sequence : run.data.sc26WireSequence =
    UInt8.ofNat (run.data.handedOut.filter isStateReport).length
  taken : run.taken = numbered 0 run.data.handedOut

theorem ofNat_succ (n : Nat) : UInt8.ofNat n + 1 = UInt8.ofNat (n + 1) := by
  apply UInt8.toNat_inj.mp
  simp [UInt8.toNat_add]

namespace Numbers

variable {run : SlotRun}

theorem created (controllerId : UInt32) : Numbers (.created controllerId .steamController) where
  steam := rfl
  recording := .created controllerId .steamController
  sequence := rfl
  taken := rfl

theorem execute (h : Numbers run) (s : Section) {entry : InProgress} {rest : List InProgress}
    (hruns : run.Runs entry rest) : Numbers (run.execute s entry rest) := by
  obtain ⟨hrecording, hhands⟩ := h.recording.execute s hruns
  cases hhands with
  | nothing kept taken =>
      refine ⟨kept.selectedProfile.trans h.steam, hrecording, ?_, ?_⟩
      · rw [kept.handedOut, kept.wireSequence, h.sequence]
      · rw [taken, kept.handedOut, h.taken]
  | report report handedOut taken wireSequence selectedProfile =>
      have hstate : run.data.isSc26State report = isStateReport report := by
        simp only [SlotData.isSc26State, h.steam, isStateReport]
        exact Bool.and_true _
      refine ⟨selectedProfile.trans h.steam, hrecording, ?_, ?_⟩
      · rw [wireSequence, handedOut, SlotData.nextSequence, hstate, h.sequence, List.filter_append]
        cases hreport : isStateReport report with
        | false => simp [hreport]
        | true =>
            rw [if_pos rfl, List.filter_cons_of_pos hreport, List.filter_nil, List.length_append]
            exact ofNat_succ _
      · rw [taken, handedOut, numbered_append, SlotData.stamped, hstate, h.taken, h.sequence,
          Nat.zero_add]

theorem runFrom (h : Numbers run) (ops : List SlotOp) : Numbers (run.runFrom ops) :=
  SlotRun.runFrom_invariant h ops fun _ hrun op _ _ _ hruns => hrun.execute (SlotRun.sectionOf op) hruns

end Numbers

-- A host that reads the report on demand sees the next number and uses none up.
theorem getInputReport_peeks (s : Section) (transfer : Transfer) {data : SlotData}
    (hsteam : data.selectedProfile = .steamController) :
    (s.getInputReport transfer data).submit = false ∧
      (s.getInputReport transfer data).data.pump = data.pump ∧
      (s.getInputReport transfer data).data.sc26WireSequence = data.sc26WireSequence ∧
      ∀ bytes, (s.getInputReport transfer data).output = some (.bytes bytes) →
        bytes.head? = some inputReportId → bytes[1]? = some data.sc26WireSequence := by
  unfold Section.getInputReport
  cases transfer.buffer with
  | none => simp
  | some buffer =>
      cases haccepts : s.acceptsVhfCallbacks with
      | false => simp
      | true =>
          simp only [Bool.not_true, Bool.false_eq_true, if_false, Section.currentReport, hsteam]
          by_cases hbattery : transfer.reportId = batteryReportId
          · simp only [if_pos hbattery]
            split
            · simp
            · split
              · simp
              · refine ⟨rfl, rfl, rfl, fun bytes hbytes hhead => ?_⟩
                obtain rfl := Output.bytes.inj (Option.some.inj hbytes)
                have hid : batteryReportId ≠ inputReportId := by decide
                exact absurd (Option.some.inj hhead) hid
          · simp only [if_neg hbattery]
            split
            · exact ⟨rfl, rfl, rfl, by simp⟩
            · split
              · exact ⟨rfl, rfl, rfl, by simp⟩
              · refine ⟨rfl, rfl, rfl, fun bytes hbytes _ => ?_⟩
                obtain rfl := Output.bytes.inj (Option.some.inj hbytes)
                have hlong := (StateReportOf.steam data s.now : StateReportOf data.lastInput _).sized
                rw [List.getElem?_append_left (by rw [List.length_set]; exact hlong),
                  List.getElem?_set_self hlong]
                rfl

-- What a Steam Controller's host sees of the numbers.
structure WireSequence (run : SlotRun) : Prop where
  -- The pump's reports leave as they are, but for the numbers on the state reports.
  stamped : run.taken = numbered 0 run.data.handedOut
  counted : ∀ i report, (run.taken.filter isStateReport)[i]? = some report →
    report.data[1]? = some (UInt8.ofNat i)
  peeked : ∀ (s : Section) (transfer : Transfer),
    (s.getInputReport transfer run.data).submit = false ∧
      (s.getInputReport transfer run.data).data.pump = run.data.pump ∧
      (s.getInputReport transfer run.data).data.sc26WireSequence = run.data.sc26WireSequence ∧
      ∀ bytes, (s.getInputReport transfer run.data).output = some (.bytes bytes) →
        bytes.head? = some inputReportId →
          bytes[1]? = some (UInt8.ofNat (run.taken.filter isStateReport).length)

theorem wire_sequence (controllerId : UInt32) (ops : List SlotOp) :
    WireSequence ((SlotRun.created controllerId .steamController).runFrom ops) := by
  have h := (Numbers.created controllerId).runFrom ops
  refine ⟨h.taken, fun i report hreport => ?_, fun s transfer => ?_⟩
  · rw [h.taken] at hreport
    have hbyte := numbered_byte 0 h.recording.handed hreport
    rwa [Nat.zero_add] at hbyte
  · rw [h.taken, numbered_count, ← h.sequence]
    exact getInputReport_peeks s transfer h.steam

end LibVirtualGamepad
