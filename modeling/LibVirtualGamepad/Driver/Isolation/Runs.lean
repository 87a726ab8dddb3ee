import LibVirtualGamepad.Driver.Isolation.Updates

-- Over every run: a file's threads leave another file's slots alone, and what it asks of
-- such a slot is refused.
namespace LibVirtualGamepad

open Interleaving

section Creations

variable {d : Device} {id i : ControllerId} {file : File} {profile : Profile}
  {threads : List Task} {k : Operation} {regs : Registers} {choice : Choice} {a : Act} {o : Effect}
  {rest : List Act}

theorem asking_checks (h : Asking id file profile (a :: rest)) : a.checks file = true := by
  cases h with
  | reply | locking => rfl
  | check | enumerate | beginning => simp [Act.checks, CreateAct.holdsSlot]

theorem taken_other {act : CreateAct} (hact : act.holdsSlot = true) (hi : i ≠ id) :
    (act.exec d regs choice id file profile).shared.controllers i = d.controllers i := by
  cases act with
  | check | enumerate generation | «begin» generation childPresent => cases hact
  | targetOpened | readFile | vhfCreate =>
    simp only [CreateAct.exec]
    split <;> rfl
  | publish handle => exact setSlot_controllers_of_ne hi
  | start handle => rfl
  | adopt handle =>
    simp only [CreateAct.exec]
    split
    · exact setSlot_controllers_of_ne hi
    · rw [clearFeedbackPending_setControl]
      exact setSlot_controllers_of_ne hi
  | release =>
    simp only [CreateAct.exec, Device.effect, Device.releaseStartingSlot]
    split
    · exact setSlot_controllers_of_ne hi
    · rfl

theorem taking_foreign (h : Taking id file profile (a :: rest)) (hheld : d.HeldBy id file)
    (hexec : a.exec threads d k regs choice = some o) (hforeign : (d.controllers i).Foreign file) :
    o.shared.controllers i = d.controllers i := by
  cases h with
  | target | deleting | deleted => exact foreign_checked rfl hexec hforeign
  | create act hact =>
    cases hexec
    refine taken_other hact ?_
    rintro rfl
    obtain hlease | hlease := hheld
    · exact hforeign.2 (congrArg Lease.owner hlease)
    · exact hforeign.2 (congrArg Lease.owner hlease)

end Creations

-- The requests that do no more than look at their slot.
def Request.onlyLooks : Request → Bool
  | .query _ | .destroy _ | .attributes _ | .poll _ | .keyboardMouse _ => true
  | _ => false

theorem onlyChecks_request {file : File} {request : Request}
    (h : request.names = none ∨ request.onlyLooks = true) :
    ∀ b ∈ request.program file, b.onlyChecks file = true := by
  cases request with
  | query asked =>
    cases asked with
    | none => simp [Request.program, Act.onlyChecks, Act.checks]
    | some asked =>
      simp only [Request.program, withSlot]
      split <;> simp [Act.onlyChecks, Act.checks, SlotStep.checks, SlotStep.silent]
  | keyboardMouse asked => simp [Request.program, Act.onlyChecks, Act.checks]
  | destroy asked | attributes update | poll asked =>
    simp only [Request.program, withSlot]
    split <;> simp [Act.onlyChecks, Act.checks, SlotStep.checks, SlotStep.silent]
  | create request =>
    obtain hnames | hlooks := h
    · simp only [Request.names] at hnames
      simp [Request.program, withSlot, hnames, Act.onlyChecks, Act.checks]
    · cases hlooks
  | input update =>
    obtain hnames | hlooks := h
    · simp only [Request.names, Request.controllerId, Option.bind_some] at hnames
      simp [Request.program, withSlot, hnames, Act.onlyChecks, Act.checks]
    · cases hlooks
  | touch update | motion update | battery update =>
    obtain hnames | hlooks := h
    · simp only [Request.names, Request.controllerId, Option.bind_some] at hnames
      simp only [Request.program]
      split <;> simp [stateUpdate, withSlot, hnames, gated, Act.onlyChecks, Act.checks]
    · cases hlooks

theorem onlyChecks_close {file : File} {operation : Operation}
    (h : operation = .fileCleanup file ∨ operation = .fileClose file) :
    ∀ b ∈ operation.program, b.onlyChecks file = true := by
  obtain rfl | rfl := h
  · simp [Operation.program, keyboardMouseFileCleanup, gated, Act.onlyChecks, Act.checks]
  · intro b hb
    simp only [Operation.program, keyboardMouseFileCleanup, gated, List.mem_append, List.mem_cons,
      List.mem_flatMap, List.not_mem_nil, or_false] at hb
    obtain (rfl | (rfl | rfl) | rfl) | ⟨id, -, (rfl | rfl) | rfl⟩ := hb
    all_goals simp [Act.onlyChecks, Act.checks]

section Runs

variable {keepalive : Bool} {run : driver.Run (World.initial keepalive)} {j n : Nat} {t : Task}
  {file : File} {id : ControllerId} {choice : Choice} {a : Act}

-- Whatever a thread of the file does, it leaves another file's slots alone.
theorem foreign_untouched (hperforms : run.Performs n j choice a)
    (ht : (run.world n).threads[j]? = some t) (hfile : t.kind.file = some file)
    (hforeign : ((run.world n).shared.controllers id).Foreign file) :
    (run.world (n + 1)).shared.controllers id = (run.world n).shared.controllers id := by
  have hn : n ≤ run.length := Nat.le_of_lt hperforms.lt_length
  have htidy := Reaches.tidy (run.reaches n hn)
  obtain ⟨s, rfl⟩ := hperforms.step
  obtain rfl : s.thread = t := Option.some.inj (s.at_index.symm.trans ht)
  have hexec : s.act.exec (run.world n).threads (run.world n).shared s.thread.kind s.thread.regs
      choice = some s.outcome := s.exec
  rw [s.shared_after]
  have hchecked (ha : s.act.checks file = true) :
      s.outcome.shared.controllers id = (run.world n).shared.controllers id :=
    foreign_checked ha hexec hforeign
  have hlooks (hprogram : ∀ b ∈ s.thread.kind.program, b.onlyChecks file = true) :
      s.outcome.shared.controllers id = (run.world n).shared.controllers id := by
    refine hchecked ?_
    have hact := htidy.checks s.thread s.mem file hprogram s.act (s.todo ▸ List.mem_cons_self)
    exact checks_of_onlyChecks hact
  cases hkind : s.thread.kind with
  | request owner request =>
    rw [hkind] at hfile
    obtain rfl : owner = some file := hfile
    rw [hkind] at hlooks
    have hlooks (hprogram : ∀ b ∈ request.program file, b.onlyChecks file = true) :
        s.outcome.shared.controllers id = (run.world n).shared.controllers id := hlooks hprogram
    cases hnames : request.names with
    | none => exact hlooks (onlyChecks_request (.inl hnames))
    | some slot =>
      have hupdates (hupdate : request.isUpdate = true) :
          s.outcome.shared.controllers id = (run.world n).shared.controllers id := by
        have hthis := htidy.updating j s.thread file request slot s.at_index hkind hupdate hnames
        rw [s.todo] at hthis
        exact hthis.foreign hexec hforeign
      have hleaves (htodo : s.thread.todo = [] ∨ s.thread.todo = [.unlockLifetime]) :
          s.outcome.shared.controllers id = (run.world n).shared.controllers id := by
        rw [s.todo] at htodo
        obtain htodo | htodo := htodo
        · cases htodo
        · refine hchecked ?_
          rw [(List.cons_eq_cons.mp htodo).1]
          rfl
      cases request with
      | create request =>
        cases creating hnames n hn s.thread s.at_index hkind with
        | asking _ todo =>
          rw [s.todo] at todo
          exact hchecked (asking_checks todo)
        | taking _ _ _ _ _ held todo =>
          rw [s.todo] at todo
          exact taking_foreign todo held hexec hforeign
        | ended _ _ _ _ _ _ _ todo => exact hleaves todo
        | adopted _ todo => exact hleaves todo
      | input | touch | motion | battery => exact hupdates rfl
      | _ => exact hlooks (onlyChecks_request (.inr rfl))
  | fileCleanup owner =>
    rw [hkind] at hfile hlooks
    exact hlooks (onlyChecks_close (.inl (congrArg Operation.fileCleanup (Option.some.inj hfile))))
  | fileClose owner =>
    rw [hkind] at hfile hlooks
    exact hlooks (onlyChecks_close (.inr (congrArg Operation.fileClose (Option.some.inj hfile))))
  | _ =>
    rw [hkind] at hfile
    cases hfile

-- A request for a slot that is another file's whenever the request looks is refused.
theorem refused {request : Request} (hnames : request.names = some id)
    (hforeign : ∀ n choice a, run.Performs n j choice a →
      ((run.world n).shared.controllers id).Foreign file) :
    ∀ n, n ≤ run.length → ∀ t, (run.world n).threads[j]? = some t →
      t.kind = .request (some file) request →
        t.regs.status.ok = false ∧ ∀ b ∈ t.todo, b.asks file id = true := by
  refine call_induct (by simp) ?_ ?_ ?_
  · intro n _ _
    exact ⟨rfl, program_asks hnames⟩
  · intro n choice hevent s _ ⟨hstatus, hasks⟩
    rw [s.todo] at hasks
    have hthis := hforeign n choice s.act (System.Run.performs_of_step hevent s)
    obtain ⟨hstatus, hnext⟩ := asks_next (k := s.thread.kind) (hasks s.act List.mem_cons_self)
      s.exec hthis hstatus
    refine ⟨hstatus, fun b hb => ?_⟩
    obtain hb | hb := List.mem_append.mp hb
    · exact hnext b hb
    · exact hasks b (List.mem_cons_of_mem _ hb)
  · intro n event t _ _ _ h
    exact h

end Runs

end LibVirtualGamepad
