import LibVirtualGamepad.Driver.Reports

-- One slot under every interleaving of the sections that touch it, from its creation
-- on. An operation enters with its first section; what it goes on with waits among the
-- pending sections and is resumed at any later moment, or never. What VHF answers to a
-- report that was handed over touches nothing here.
namespace LibVirtualGamepad

namespace SlotStep

-- The sections of the owner's requests, which come out of one queue.
def isRequest : SlotStep → Bool
  | .input .. | .beginUpdate .. | .query .. | .attributes .. | .poll .. => true
  | _ => false

-- The sections that an operation starts with.
def enters : SlotStep → Bool
  | .applyUpdate .. | .carryMotion | .profileReport .. | .pumpReport .. => false
  | _ => true

end SlotStep

structure InProgress where
  request : Bool
  step : SlotStep

-- `taken` are the reports that were handed to VHF, oldest first.
structure SlotRun where
  data : SlotData
  pending : List InProgress
  taken : List ReportBuffer

inductive SlotOp where
  | enter (s : Section) (step : SlotStep)
  | resume (s : Section) (i : Nat)

namespace SlotRun

def created (controllerId : UInt32) (profile : Profile) : SlotRun :=
  ⟨.created controllerId profile, [], []⟩

-- A section runs while `rest` waits.
def execute (run : SlotRun) (s : Section) (entry : InProgress) (rest : List InProgress) : SlotRun :=
  let r := entry.step.run s run.data
  { data := r.data
    pending := rest ++ r.next.map (InProgress.mk entry.request)
    taken := run.taken ++ if r.submit then [r.data.pump.inFlight] else [] }

-- The next request is not dispatched before the last one has returned.
def step (run : SlotRun) : SlotOp → SlotRun
  | .enter s step =>
    if step.enters && !(step.isRequest && run.pending.any InProgress.request) then
      run.execute s ⟨step.isRequest, step⟩ run.pending
    else
      run
  | .resume s i =>
    match run.pending[i]? with
    | some entry => run.execute s entry (run.pending.eraseIdx i)
    | none => run

def runFrom (run : SlotRun) (ops : List SlotOp) : SlotRun := ops.foldl step run

-- The section that is to run next: one that enters, or one that was waiting.
inductive Runs (run : SlotRun) : InProgress → List InProgress → Prop where
  | enters {step : SlotStep} (enters : step.enters = true)
    (free : step.isRequest = true → ∀ entry ∈ run.pending, entry.request = false) :
    Runs run ⟨step.isRequest, step⟩ run.pending
  | resumes {front back : List InProgress} {entry : InProgress}
    (pending : run.pending = front ++ entry :: back) : Runs run entry (front ++ back)

def sectionOf : SlotOp → Section
  | .enter s _ => s
  | .resume s _ => s

theorem step_cases (run : SlotRun) (op : SlotOp) :
    run.step op = run ∨ ∃ entry rest, Runs run entry rest ∧
      (op = .enter (sectionOf op) entry.step ∨ entry ∈ run.pending) ∧
        run.step op = run.execute (sectionOf op) entry rest := by
  cases op with
  | enter s step =>
      simp only [SlotRun.step]
      split
      · rename_i henters
        simp only [Bool.and_eq_true, Bool.not_eq_true', Bool.and_eq_false_iff] at henters
        obtain ⟨henters, hfree⟩ := henters
        refine .inr ⟨_, _, .enters henters fun hrequest entry hmem => ?_, .inl rfl, rfl⟩
        rcases hfree with hfree | hfree
        · rw [hfree] at hrequest
          exact absurd hrequest (by simp)
        · simpa using List.any_eq_false.mp hfree entry hmem
      · exact .inl rfl
  | resume s i =>
      simp only [SlotRun.step]
      cases hentry : run.pending[i]? with
      | none => exact .inl rfl
      | some entry =>
          obtain ⟨hi, rfl⟩ := List.getElem?_eq_some_iff.mp hentry
          have hsplit : run.pending =
              run.pending.take i ++ run.pending[i] :: run.pending.drop (i + 1) := by
            rw [← List.drop_eq_getElem_cons, List.take_append_drop]
          refine .inr ⟨run.pending[i], _, .resumes hsplit, .inr (List.getElem_mem hi), ?_⟩
          rw [← List.eraseIdx_eq_take_drop_succ]
          rfl

-- Only sections that lead on from others wait.
def Waiting (run : SlotRun) : Prop := ∀ entry ∈ run.pending, entry.step.enters = false

theorem Waiting.execute {run : SlotRun} (h : run.Waiting) (s : Section) {entry : InProgress}
    {rest : List InProgress} (hruns : run.Runs entry rest) : (run.execute s entry rest).Waiting := by
  intro other hother
  rcases List.mem_append.mp hother with hrest | hnext
  · cases hruns with
    | enters _ _ => exact h other hrest
    | resumes hpending =>
        refine h other ?_
        rw [hpending]
        rcases List.mem_append.mp hrest with hmem | hmem <;> simp [hmem]
  · obtain ⟨after, hafter, rfl⟩ := List.mem_map.mp hnext
    rcases entry.step.next_cases s run.data with hnone | ⟨only, honly, hprepared⟩
    · rw [hnone] at hafter
      exact absurd hafter (by simp)
    · rw [honly, List.mem_singleton] at hafter
      subst hafter
      cases after <;> first | rfl | exact hprepared.elim

-- What every section keeps holds after every run.
theorem runFrom_invariant {P : SlotRun → Prop} {run : SlotRun} (h : P run) (ops : List SlotOp)
    (hexecute : ∀ run, P run → ∀ op ∈ ops, ∀ entry rest, Runs run entry rest →
      P (run.execute (sectionOf op) entry rest)) : P (run.runFrom ops) := by
  induction ops generalizing run with
  | nil => exact h
  | cons op rest ih =>
      refine ih ?_ fun run hrun other hmem => hexecute run hrun other (List.mem_cons_of_mem _ hmem)
      rcases step_cases run op with hsame | ⟨entry, rest, hruns, -, hstep⟩
      · rw [hsame]
        exact h
      · rw [hstep]
        exact hexecute run h op (List.mem_cons_self ..) entry rest hruns

end SlotRun

end LibVirtualGamepad
