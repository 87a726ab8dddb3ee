import LibVirtualGamepad.Driver.Cadence.Worker

-- Where the steps of a worker's start come from, and in which order a thread takes them.
namespace LibVirtualGamepad

open Interleaving

section Programs

variable {d : Device} {regs : Registers} {choice : Choice} {threads : List Task} {k : Operation}
  {a : Act} {o : Effect}

theorem works_deleteStopped (retain : Bool) :
    ∀ b ∈ deleteStoppedKeyboardMouse retain, b.works = false := by
  simp [deleteStoppedKeyboardMouse, Act.works]

theorem works_submission (id : ControllerId) (answers : Bool) :
    ∀ b ∈ d.submission id answers, b.works = false := by
  intro b hb
  obtain ⟨handle, -, rfl⟩ := submission_handle hb
  rfl

theorem works_deleteCollected {handles : ControllerId → Option Handle}
    {after : ControllerId → List Act} (hafter : ∀ id, ∀ b ∈ after id, b.works = false) :
    ∀ b ∈ deleteCollected handles after, b.works = false := by
  intro b hb
  obtain ⟨id, -, hb⟩ := List.mem_flatMap.mp hb
  split at hb
  · rcases List.mem_append.mp hb with hb | hb
    · simp only [deleteAfterSubmits, List.mem_cons, List.not_mem_nil, or_false] at hb
      obtain rfl | rfl | rfl := hb <;> rfl
    · exact hafter id b hb
  · cases hb

theorem works_power (act : PowerAct) : ∀ b ∈ (act.exec d regs).next, b.works = false := by
  have hstop : ∀ b ∈ stopKeepalive, b.works = false := by simp [stopKeepalive, Act.works]
  intro b hb
  cases act with
  | stopMark forgetTarget =>
    rcases List.mem_append.mp hb with hb | hb
    · exact works_deleteStopped false b hb
    · rw [List.mem_singleton.mp hb]
      rfl
  | stopCollect forgetTarget =>
    rcases List.mem_append.mp hb with hb | hb
    · exact works_deleteCollected (by simp [Act.works]) b hb
    · exact hstop b hb
  | downMark =>
    simp only [PowerAct.exec, Device.effect, List.mem_append, List.mem_singleton] at hb
    rcases hb with (((hb | rfl) | hb) | hb) | rfl
    · exact works_deleteStopped true b hb
    · rfl
    · exact hstop b hb
    · exact works_deleteCollected (by simp) b hb
    · rfl
  | prepare =>
    rw [List.mem_singleton.mp hb]
    rfl
  | _ => cases hb

theorem works_keyboardMouse {act : KeyboardMouseAct} (h : act.exec d regs choice = some o) :
    ∀ b ∈ o.next, b.works = false := by
  cases act with
  | authorize owner request =>
    simp only [KeyboardMouseAct.exec] at h
    split at h <;> cases h
    · cases request <;> simp [KeyboardMouseRequest.program, Device.effect, Act.works]
    · exact List.forall_mem_nil _
  | _ =>
    simp only [KeyboardMouseAct.exec] at h
    repeat' split at h
    all_goals cases h
    all_goals simp [Device.effect, Act.works, targetOpen, deleteStoppedKeyboardMouse]

-- Where the steps of a start and of the worker's loop come from.
inductive Works (d : Device) (choice : Choice) (a b : Act) (o : Effect) : Prop where
  | starts (id : ControllerId) (step : SlotStep) (act : a = .slot id step)
    (start : (step.run (d.sectionOf id choice.now) (d.controllers id).data).startKeepalive = true)
    (next : b = .keepalive .publishStart)
  | creates (act : a = .keepalive .armFirst) (next : o.next = [.keepalive .createWorker])
    (set : o.shared.timerSet)
  | ticks (act : a = .keepalive .wait) (next : b = .keepalive .tick)
  | waits (act : a = .keepalive .tick) (next : b = .keepalive .wait)

theorem works_next (h : a.exec threads d k regs choice = some o) {b : Act} (hb : b ∈ o.next)
    (hworks : b.works = true) : Works d choice a b o := by
  have hnone {next : List Act} (hnext : ∀ b ∈ next, b.works = false) (hb : b ∈ next) :
      Works d choice a b o := by
    rw [hnext b hb] at hworks
    cases hworks
  cases a with
  | slot id step =>
    cases h
    rcases List.mem_append.mp hb with hb | hb
    · rcases List.mem_append.mp hb with hb | hb
      · split at hb
        · rename_i hstart
          refine .starts id step rfl hstart ?_
          simp only [startKeepalive, List.mem_cons, List.not_mem_nil, or_false] at hb
          obtain rfl | rfl | rfl | rfl := hb
          · cases hworks
          · rfl
          · cases hworks
          · cases hworks
        · cases hb
      · split at hb
        · exact hnone (works_submission id _) hb
        · cases hb
    · obtain ⟨step, -, rfl⟩ := List.mem_map.mp hb
      cases hworks
  | keepalive act =>
    cases act with
    | armFirst =>
      simp only [Act.exec, KeepaliveAct.exec] at h
      split at h <;> cases h
      · exact .creates rfl rfl (.inl rfl)
      · exact hnone (by simp [Device.effect, Act.works]) hb
    | wait =>
      simp only [Act.exec, KeepaliveAct.exec] at h
      repeat' split at h
      all_goals cases h
      · exact hnone (by simp [Device.effect, Act.works]) hb
      · exact .ticks rfl (List.mem_singleton.mp hb)
    | tick =>
      cases h
      rcases List.mem_append.mp hb with hb | hb
      · obtain ⟨id, -, hb⟩ := List.mem_flatMap.mp hb
        split at hb
        · exact hnone (works_submission id false) hb
        · cases hb
      · split at hb
        · exact .waits rfl (List.mem_singleton.mp hb)
        · exact hnone (by simp [Act.works]) hb
    | _ =>
      simp only [Act.exec, KeepaliveAct.exec] at h
      repeat' split at h
      all_goals cases h
      all_goals exact hnone (by simp [Device.effect, Act.works]) hb
  | power act =>
    cases h
    exact hnone (works_power act) hb
  | keyboardMouse act => exact hnone (works_keyboardMouse h) hb
  | create id owner profile act =>
    cases h
    refine hnone ?_ hb
    cases act <;> simp only [CreateAct.exec] <;> (repeat' split) <;>
      simp [Device.effect, Act.works, targetOpen]
  | destroy id owner act =>
    cases h
    refine hnone ?_ hb
    cases act <;> simp only [DestroyAct.exec] <;> (repeat' split) <;>
      simp [Device.effect, Act.works, deleteAfterSubmits]
  | target act =>
    cases h
    refine hnone ?_ hb
    cases act <;> simp only [TargetAct.exec] <;> (repeat' split) <;> simp [Device.effect, Act.works]
  | lockLifetime | waitForSubmits id | deleteEnd handle =>
    simp only [Act.exec] at h
    split at h <;> cases h
    cases hb
  | _ =>
    cases h
    exact hnone (by simp [Device.effect, Act.works]) hb

theorem works_request (owner : File) (asked : Request) :
    ∀ b ∈ asked.program owner, b.works = false := by
  cases asked <;> simp only [Request.program, withSlot, stateUpdate, gated] <;> (repeat' split) <;>
    simp [Act.works]

theorem works_program (hk : k ≠ .keepaliveWorker) : ∀ b ∈ k.program, b.works = false := by
  cases k with
  | request owner asked =>
    cases owner with
    | none => simp [Operation.program, Act.works]
    | some owner => exact works_request owner asked
  | fileClose owner =>
    intro b hb
    simp only [Operation.program, keyboardMouseFileCleanup, gated, List.mem_append, List.mem_cons,
      List.mem_flatMap, List.not_mem_nil, or_false] at hb
    rcases hb with (rfl | (rfl | rfl) | rfl) | ⟨id, -, (rfl | rfl) | rfl⟩ <;> rfl
  | keepaliveWorker => exact absurd rfl hk
  | _ =>
    simp [Operation.program, keyboardMouseFileCleanup, gated, Act.works, powerDownControllers,
      stopOwnedControllers, closeTarget]

-- A worker is created by the next act of its thread or by none, and a transition is
-- announced by a thread that carries it out afterwards.
structure InSequence (todo : List Act) : Prop where
  tail : ∀ b ∈ todo.tail, b.announces = false ∧ b ≠ .keepalive .createWorker
  head : ∀ a rest, todo = a :: rest → a.announces = true → ∃ b ∈ rest, b.takesOver = true

theorem inSequence_of_plain {todo : List Act}
    (h : ∀ b ∈ todo, b.announces = false ∧ b ≠ .keepalive .createWorker) : InSequence todo where
  tail b hb := h b (List.mem_of_mem_tail hb)
  head a rest htodo hannounces := by
    rw [(h a (htodo ▸ List.mem_cons_self)).1] at hannounces
    cases hannounces

theorem inSequence_next {rest : List Act} (h : a.exec threads d k regs choice = some o)
    (hrest : InSequence (a :: rest)) : InSequence (o.next ++ rest) := by
  have hquiet : ∀ b ∈ o.next ++ rest, b.announces = false := fun b hb => by
    rcases List.mem_append.mp hb with hb | hb
    · exact announces_next h b hb
    · exact (hrest.tail b hb).1
  refine ⟨fun b hb => ⟨hquiet b (List.mem_of_mem_tail hb), ?_⟩,
    fun b more htodo hannounces => ?_⟩
  · rintro rfl
    cases hnext : o.next with
    | nil =>
      rw [hnext] at hb
      exact (hrest.tail _ (List.mem_of_mem_tail hb)).2 rfl
    | cons first more =>
      rw [hnext] at hb
      rcases List.mem_append.mp hb with hb | hb
      · have hmem : Act.keepalive .createWorker ∈ o.next := hnext ▸ List.mem_cons_of_mem first hb
        cases works_next h hmem rfl with
        | starts _ _ _ _ next => cases next
        | creates _ next _ =>
          rw [hnext, List.cons_eq_cons] at next
          rw [next.2] at hb
          cases hb
        | ticks _ next => cases next
        | waits _ next => cases next
      · exact (hrest.tail _ hb).2 rfl
  · rw [hquiet b (htodo ▸ List.mem_cons_self)] at hannounces
    cases hannounces

theorem inSequence_program (operation : Operation) : InSequence operation.program := by
  have hworks (hk : operation ≠ .keepaliveWorker) :
      ∀ b ∈ operation.program, b ≠ .keepalive .createWorker := by
    rintro b hb rfl
    cases works_program hk _ hb
  cases operation with
  | d0Exit =>
    refine ⟨fun b hb => ⟨?_, hworks (by simp) b (List.mem_of_mem_tail hb)⟩, ?_⟩
    · revert b
      simp [Operation.program, powerDownControllers, gated, Act.announces]
    · rintro a rest htodo -
      obtain ⟨-, rfl⟩ := List.cons_eq_cons.mp htodo.symm
      exact ⟨.power .downMark, by simp [gated], rfl⟩
  | releaseHardware =>
    refine ⟨fun b hb => ⟨?_, hworks (by simp) b (List.mem_of_mem_tail hb)⟩, ?_⟩
    · revert b
      simp [Operation.program, stopOwnedControllers, closeTarget, gated, Act.announces]
    · rintro a rest htodo -
      obtain ⟨-, rfl⟩ := List.cons_eq_cons.mp htodo.symm
      exact ⟨.power (.stopMark false), by simp [gated], rfl⟩
  | targetCleanup =>
    refine ⟨fun b hb => ⟨?_, hworks (by simp) b (List.mem_of_mem_tail hb)⟩, ?_⟩
    · revert b
      simp [Operation.program, stopOwnedControllers, gated, Act.announces]
    · rintro a rest htodo -
      obtain ⟨-, rfl⟩ := List.cons_eq_cons.mp htodo.symm
      exact ⟨.power (.stopMark true), by simp [gated], rfl⟩
  | keepaliveWorker =>
    exact inSequence_of_plain (by simp [Operation.program, Act.announces])
  | request owner asked =>
    refine inSequence_of_plain fun b hb => ⟨?_, hworks (by simp) b hb⟩
    cases owner with
    | none =>
      rw [List.mem_singleton.mp hb]
      rfl
    | some owner => exact announces_request owner asked b hb
  | fileClose owner =>
    refine inSequence_of_plain fun b hb => ⟨?_, hworks (by simp) b hb⟩
    simp only [Operation.program, keyboardMouseFileCleanup, gated, List.mem_append, List.mem_cons,
      List.mem_flatMap, List.not_mem_nil, or_false] at hb
    rcases hb with (rfl | (rfl | rfl) | rfl) | ⟨id, -, (rfl | rfl) | rfl⟩ <;> rfl
  | _ =>
    refine inSequence_of_plain fun b hb => ⟨?_, hworks (by simp) b hb⟩
    revert b
    simp [Operation.program, keyboardMouseFileCleanup, gated, Act.announces]

end Programs

end LibVirtualGamepad
