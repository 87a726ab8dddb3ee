import LibVirtualGamepad.Driver.Frame

-- A function on a slot goes on with ever fewer sections, and only an input may start the
-- keep-alive worker.
namespace LibVirtualGamepad

namespace SlotStep

def isInput : SlotStep → Bool
  | .input _ _ => true
  | _ => false

-- How many sections a function may still go on with.
def rank : SlotStep → Nat
  | .input _ _ | .beginUpdate _ _ => 4
  | .applyUpdate _ => 3
  | .carryMotion => 2
  | .profileReport _ | .write _ => 1
  | _ => 0

theorem rank_le (step : SlotStep) : step.rank ≤ 4 := by
  cases step <;> simp [rank]

end SlotStep

section Sections

variable {s : Section} {data : SlotData}

-- A section leads to one of lower rank at most, and starts the worker only for an input.
structure Descends (n : Nat) (r : StepResult) : Prop where
  next : ∀ step ∈ r.next, step.rank < n
  one : r.next.length ≤ 1
  calm : r.startKeepalive = false

theorem descends_pumpReport {n : Nat} (report : Option QueuedReport) (answers : Bool) :
    Descends n (s.pumpReport report answers data) := by
  unfold Section.pumpReport
  split <;> exact ⟨List.forall_mem_nil _, Nat.zero_le 1, rfl⟩

theorem descends_done {n : Nat} {status : Option NtStatus} {output : Option Output} :
    Descends n { data := data, status := status, output := output } :=
  ⟨List.forall_mem_nil _, Nat.zero_le 1, rfl⟩

theorem descends_next {n : Nat} {status : Option NtStatus} {step : SlotStep} (h : step.rank < n) :
    Descends n { data := data, status := status, next := [step] } :=
  ⟨fun _ hmem => by rwa [List.mem_singleton.1 hmem], Nat.le_refl 1, rfl⟩

theorem descends_profileReport (kind : ReportKind) : Descends 1 (s.profileReport kind data) := by
  unfold Section.profileReport
  split
  · exact descends_done
  split
  · exact descends_done
  split
  · exact descends_pumpReport _ _
  split
  · exact descends_next Nat.one_pos
  · exact descends_next Nat.one_pos

theorem descends_applyUpdate (update : StateUpdate) : Descends 3 (s.applyUpdate update data) := by
  have hcarry : SlotStep.carryMotion.rank < 3 := Nat.lt_succ_self 2
  have hreport (kind : ReportKind) : (SlotStep.profileReport kind).rank < 3 := Nat.lt_of_sub_pos Nat.two_pos
  have hpump (report : Option QueuedReport) : (SlotStep.pumpReport report true).rank < 3 := Nat.succ_pos 2
  cases update with
  | touch request =>
    simp only [Section.applyUpdate, Section.applyTouch]
    repeat' split
    all_goals first
      | exact descends_done
      | exact descends_next (hreport _)
  | motion request =>
    simp only [Section.applyUpdate, Section.applyMotion]
    repeat' split
    all_goals first
      | exact descends_done
      | exact descends_next hcarry
      | exact descends_next (hreport _)
  | battery request =>
    simp only [Section.applyUpdate, Section.applyBattery]
    repeat' split
    all_goals first
      | exact descends_done
      | exact descends_next (hpump _)
      | exact descends_next (hreport _)

theorem descends_write (transfer : Transfer) : Descends 1 (s.write transfer data) := by
  have hpump (report : Option QueuedReport) : (SlotStep.pumpReport report false).rank < 1 := Nat.one_pos
  unfold Section.write
  dsimp only
  split
  · unfold Section.writeGeneric
    dsimp only
    repeat' split
    all_goals exact descends_done
  split
  · exact descends_done
  split
  · unfold Section.writeSteam
    dsimp only
    repeat' split
    all_goals first
      | exact descends_done
      | exact descends_next (hpump _)
  split
  · unfold Section.writeSwitch
    dsimp only
    repeat' split
    all_goals first
      | exact descends_done
      | exact descends_next (hpump _)
  split
  · unfold Section.writePlaystation
    split <;> exact descends_done
  · unfold Section.writeXbox
    dsimp only
    repeat' split
    all_goals exact descends_done

theorem descends_run {step : SlotStep} (h : step.isInput = false) :
    Descends step.rank (step.run s data) := by
  cases step with
  | input owner request => cases h
  | beginUpdate owner update =>
    simp only [SlotStep.run, Section.beginUpdate]
    repeat' split
    all_goals first
      | exact descends_done
      | exact descends_next (Nat.lt_succ_self 3)
  | applyUpdate update => exact descends_applyUpdate update
  | carryMotion =>
    simp only [SlotStep.run, Section.carryMotion]
    split
    · exact descends_done
    · exact descends_next (Nat.lt_succ_self 1)
  | profileReport kind => exact descends_profileReport kind
  | pumpReport report answers => exact descends_pumpReport report answers
  | write transfer => exact descends_write transfer
  | ready =>
    simp only [SlotStep.run, Section.ready]
    split <;> exact ⟨List.forall_mem_nil _, Nat.zero_le 1, rfl⟩
  | getFeature transfer =>
    simp only [SlotStep.run, Section.getFeature]
    repeat' split
    all_goals exact descends_done
  | setFeature transfer =>
    simp only [SlotStep.run, Section.setFeature]
    repeat' split
    all_goals exact descends_done
  | getInputReport transfer =>
    simp only [SlotStep.run, Section.getInputReport]
    repeat' split
    all_goals exact descends_done
  | query owner =>
    simp only [SlotStep.run, Section.query]
    repeat' split
    all_goals exact descends_done
  | attributes owner request =>
    simp only [SlotStep.run, Section.attributes]
    repeat' split
    all_goals exact descends_done
  | poll owner =>
    simp only [SlotStep.run, Section.poll]
    repeat' split
    all_goals exact descends_done
  | keepalive =>
    simp only [SlotStep.run, Section.keepalive]
    repeat' split
    all_goals first
      | exact descends_done
      | exact ⟨(descends_pumpReport _ _).next, (descends_pumpReport (n := 0) _ _).one,
          (descends_pumpReport (n := 0) _ _).calm⟩

-- An input may start the worker, and goes on with a report at most.
theorem next_input (owner : File) (request : InputStateRequest) :
    ∀ step ∈ (s.input owner request data).next, step.rank = 0 := by
  unfold Section.input
  have hpump (report : Option QueuedReport) : (SlotStep.pumpReport report true).rank = 0 := rfl
  dsimp only
  repeat' split
  all_goals first
    | exact List.forall_mem_nil _
    | exact fun _ hmem => by rw [List.mem_singleton.1 hmem]; rfl
    | exact fun step hmem => Nat.lt_one_iff.1 ((descends_pumpReport _ _).next step hmem)

theorem next_rank (step : SlotStep) : ∀ next ∈ (step.run s data).next, next.rank < step.rank := by
  cases hinput : step.isInput with
  | false => exact (descends_run hinput).next
  | true =>
    cases step with
    | input owner request =>
      intro next hnext
      rw [next_input owner request next hnext]
      exact Nat.succ_pos 3
    | _ => cases hinput

theorem next_one (step : SlotStep) : (step.run s data).next.length ≤ 1 := by
  cases hinput : step.isInput with
  | false => exact (descends_run hinput).one
  | true =>
    cases step with
    | input owner request =>
      simp only [SlotStep.run, Section.input]
      repeat' split
      all_goals first
        | exact Nat.zero_le 1
        | exact Nat.le_refl 1
        | exact (descends_pumpReport (n := 0) _ _).one
    | _ => cases hinput

theorem isInput_of_rank {step next : SlotStep} (h : next ∈ (step.run s data).next) :
    next.isInput = false := by
  have hrank := next_rank step next h
  have hle := step.rank_le
  cases hinput : next.isInput with
  | false => rfl
  | true =>
    cases next with
    | input owner request =>
      have hfour : (SlotStep.input owner request).rank = 4 := rfl
      omega
    | _ => cases hinput

end Sections

end LibVirtualGamepad
