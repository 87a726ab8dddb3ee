import LibVirtualGamepad.Driver.Progress.Waits

-- When no thread can go on, every one has returned but for the keep-alive's worker, which
-- waits for its timer, and nothing is left in flight.
namespace LibVirtualGamepad

open Interleaving

section Standing

variable {threads : List Task} {d : Device} {k : Operation} {regs : Registers} {choice : Choice}
  {a : Act} {o : Effect}

theorem environment_threads {stimulus : Stimulus} {out : Device × List Task}
    (h : stimulus.run threads d = some out) : ∀ t ∈ out.2, ∃ operation : Operation,
      t = operation.start := by
  intro t ht
  cases stimulus with
  | timerFires =>
    simp only [Stimulus.run] at h
    split at h <;> cases h
    cases ht
  | start operation =>
    simp only [Stimulus.run] at h
    split at h <;> cases h
    exact ⟨operation, List.mem_singleton.1 ht⟩

theorem submits_eq_false (h : a.submission = none) : a.submits = false := by
  simp [Act.submits, h]

theorem exposes_submits : driver.Exposes Act.clears Act.submits where
  kept threads d k regs c a o h hclears := clears_next (k := k) hclears h
  next threads d k regs c a o h := exposed_next (k := k) h
  spawn threads d k regs c a o h t ht := by
    rw [spawn_worker (k := k) h t ht]
    exact exposed_of_none (by simp [Act.submits, Act.submission])
  environment threads d stimulus out h t ht := by
    obtain ⟨operation, rfl⟩ := environment_threads h t ht
    exact exposed_of_none fun a ha => submits_eq_false (program_calm operation a ha)

-- A step of a loop is done next.
theorem pumping_next (h : a.exec threads d k regs choice = some o) :
    Exposed (fun _ => false) Act.pumping o.next := by
  cases hkm : a.isKeyboardMouse with
  | false =>
    refine exposed_of_none fun b hb => ?_
    cases hb' : b.isKeyboardMouse with
    | true => obtain rfl | ⟨retain, rfl⟩ := (other_next hkm h).2 b hb hb' <;> rfl
    | false => cases b <;> first | rfl | cases hb'
  | true =>
    obtain ⟨act, rfl⟩ := keyboardMouse_of_isKeyboardMouse hkm
    cases hrun : act.running with
    | false => exact exposed_of_none (keyboardMouse_not_pumping hrun h)
    | true =>
      obtain hnext | ⟨act', hnext, -, -⟩ := running_next hrun rfl h
      · rw [hnext]
        exact trivial
      · rw [hnext]
        exact ⟨.inr (List.forall_mem_nil _), trivial⟩

theorem exposes_pumping : driver.Exposes (fun _ => false) Act.pumping where
  kept threads d k regs c a o h hclears := by cases hclears
  next threads d k regs c a o h := pumping_next (k := k) h
  spawn threads d k regs c a o h t ht := by
    rw [spawn_worker (k := k) h t ht]
    exact exposed_of_none (by simp [Act.pumping])
  environment threads d stimulus out h t ht := by
    obtain ⟨operation, rfl⟩ := environment_threads h t ht
    refine exposed_of_none fun a ha => ?_
    cases program_starts a ha <;> rfl

theorem sections_next (ha : a.sections = true) (h : a.exec threads d k regs choice = some o) :
    ∀ b ∈ o.next, b.sections = true := by
  cases a with
  | slot id step =>
    cases h
    intro b hb
    obtain ⟨hinput, -⟩ | hsubmits | ⟨next, hnext, rfl⟩ := slot_next b hb
    · simp [Act.sections, hinput] at ha
    · exact sections_of_submits hsubmits
    · simp [Act.sections, hnext]
  | submitEnter id handle answers | submitLeave id handle answers =>
    cases h
    simp [Device.effect, Act.sections]
  | _ => cases ha

-- A callback of VHF keeps to sections and submissions.
theorem confines_callbacks :
    driver.Confines fun k a => k.isCallback = true → a.sections = true where
  next threads d k regs c a o h ha b hb hk := sections_next (k := k) (ha hk) h b hb
  spawn threads d k regs c a o h t ht := by
    rw [spawn_worker (k := k) h t ht]
    intro b _ hk
    cases hk
  environment threads d stimulus out h t ht := by
    obtain ⟨operation, rfl⟩ := environment_threads h t ht
    intro b hb hk
    cases operation with
    | callback id handle callback =>
      rw [List.mem_singleton.1 hb]
      cases callback <;> rfl
    | _ => cases hk

end Standing

-- What is known of a world that the driver has come to.
structure Governed (w : World) : Prop where
  disciplined : Disciplined w
  attended : Attended w
  pump : PumpLoop w
  contexts : Contexts w
  submits : ∀ t ∈ w.threads, Exposed Act.clears Act.submits t.todo
  loops : ∀ t ∈ w.threads, Exposed (fun _ => false) Act.pumping t.todo
  callbacks : ∀ t ∈ w.threads, ∀ a ∈ t.todo, t.kind.isCallback = true → a.sections = true

theorem Governed.step {w w' : World} {event : Interleaving.Event Choice Stimulus} (h : Governed w)
    (hstep : driver.step w event = some w') : Governed w' where
  disciplined := h.disciplined.step hstep
  attended := h.attended.step hstep
  pump := h.pump.step h.disciplined hstep
  contexts := by
    cases event with
    | act i choice =>
      obtain ⟨s⟩ := System.actStep_of_step hstep
      exact h.contexts.act h.disciplined h.pump.ordered s
    | env stimulus => exact h.contexts.env hstep
  submits := exposes_submits.step h.submits hstep
  loops := exposes_pumping.step h.loops hstep
  callbacks := confines_callbacks.step h.callbacks hstep

theorem Reaches.governed {keepalive : Bool} {w : World}
    (h : driver.Reaches (World.initial keepalive) w) : Governed w := by
  refine System.Reaches.invariant h (fun _ _ _ hw hstep => hw.step hstep) ?_
  refine ⟨disciplined_initial keepalive, Reaches.attended (.refl _), .initial keepalive,
    .initial keepalive, fun t ht => ?_, fun t ht => ?_, fun t ht => ?_⟩
  all_goals cases ht

-- A world that waits for the outside: the requests and callbacks have returned, and the
-- worker, if there is one, waits for its timer.
structure Quiescent (w : World) : Prop where
  returned : ∀ t ∈ w.threads, t.todo ≠ [] → t.kind = .keepaliveWorker ∧
    t.todo = [.keepalive .wait] ∧ w.shared.keepalive.stop = false ∧
      w.shared.keepalive.signalled = false
  gate : w.shared.gateHeld = false
  settled : ∀ p, Settled w.shared p
  submissions : ∀ id, (w.shared.controllers id).control.submitsInFlight = 0
  pump : w.shared.keyboardMouse.pumpActive = false ∧ w.shared.keyboardMouse.submitOwners = 0
  entries : ∀ context ∈ w.shared.contexts, context.activeEntries = 0

section Stuck

variable {w : World} {choice : Choice}

-- A choice under which all goes well outside, and no thread that could act under it.
structure Halted (w : World) (choice : Choice) : Prop where
  ok : choice.status.ok = true
  stuck : driver.Stuck (· = choice) w

theorem Halted.waits (h : Halted w choice) {t : Task} {a : Act} {rest : List Act}
    (ht : t ∈ w.threads) (htodo : t.todo = a :: rest) : a.Waits w.threads w.shared := by
  obtain ⟨i, hi⟩ := List.mem_iff_getElem?.1 ht
  exact waits_of_exec (k := t.kind) h.ok (h.stuck.exec hi htodo rfl)

theorem not_waits_sections {threads : List Task} {d : Device} {a : Act} (ha : a.sections = true) :
    ¬a.Waits threads d := by
  intro h
  cases h <;> cases ha

theorem not_waits_activation {threads : List Task} {d : Device} {a : Act} {context : Nat}
    (ha : a.activation = some context) : ¬a.Waits threads d := by
  intro h
  cases h <;> cases ha

theorem not_waits_pumping {threads : List Task} {d : Device} {a : Act} (ha : a.pumping = true) :
    ¬a.Waits threads d := by
  intro h
  cases h <;> cases ha

-- No callback of VHF is under way.
theorem Halted.no_callback (h : Halted w choice) (ho : Governed w) {t : Task} (ht : t ∈ w.threads)
    (hkind : t.kind.isCallback = true) : t.todo = [] := by
  cases htodo : t.todo with
  | nil => rfl
  | cons a rest =>
    have hsections := ho.callbacks t ht a (by rw [htodo]; exact List.mem_cons_self) hkind
    exact absurd (h.waits ht htodo) (not_waits_sections hsections)

theorem Halted.no_readiness (h : Halted w choice) (ho : Governed w) {t : Task} (ht : t ∈ w.threads)
    {handle : Handle} {context : Nat} (hkind : t.kind = .keyboardMouseReady handle context) :
    t.todo = [] := by
  have hshaped := ho.contexts.shaped t ht
  simp only [Shaped, hkind] at hshaped
  cases htodo : t.todo with
  | nil => rfl
  | cons a rest =>
    have hactivation := hshaped.activation a (by rw [htodo]; exact List.mem_cons_self)
    exact absurd (h.waits ht htodo) (not_waits_activation hactivation)

theorem Halted.no_loop (h : Halted w choice) (ho : Governed w) :
    w.shared.keyboardMouse.pumpActive = false ∧ w.shared.keyboardMouse.submitOwners = 0 := by
  have hidle : looping w.threads = 0 := by
    by_contra hloop
    obtain ⟨t, ht, a, ha, hpumping⟩ := exists_pending hloop
    cases htodo : t.todo with
    | nil =>
      rw [htodo] at ha
      cases ha
    | cons b rest =>
      have hexposed := ho.loops t ht
      rw [htodo] at hexposed ha
      obtain rfl | hfalse := hexposed.head ha hpumping
      · exact not_waits_pumping hpumping (h.waits ht htodo)
      · cases hfalse
  have hone := ho.pump.counted.one
  have hactive : w.shared.keyboardMouse.pumpActive = false := by
    cases hactive : w.shared.keyboardMouse.pumpActive with
    | false => rfl
    | true => simp [hactive, hidle] at hone
  exact ⟨hactive, (ho.pump.counted.idle hactive).2⟩

theorem Halted.no_entries (h : Halted w choice) (ho : Governed w) {context : Nat}
    {c : CallbackContext} (hc : w.shared.contexts[context]? = some c) : c.activeEntries = 0 := by
  rw [ho.contexts.counted context c hc]
  by_contra hentered
  obtain ⟨t, ht, a, ha, hholds⟩ := exists_pending hentered
  obtain ⟨handle, child, hkind, -⟩ := ho.contexts.caller ht ha (activation_of_holds hholds)
  rw [h.no_readiness ho ht hkind] at ha
  cases ha

theorem Halted.not_called (h : Halted w choice) (ho : Governed w) (handle : Handle) :
    (unfinished w.threads (Operation.isCallbackOf handle) || entering w.threads handle) = false := by
  rw [Bool.or_eq_false_iff]
  constructor
  · refine List.any_eq_false.2 fun t ht hcalled => ?_
    obtain ⟨hkind, htodo⟩ := by simpa using hcalled
    refine htodo (h.no_callback ho ht ?_)
    cases hk : t.kind <;> simp [hk, Operation.isCallbackOf] at hkind
    rfl
  · refine List.any_eq_false.2 fun t ht hcalled => ?_
    split at hcalled
    · rename_i handle' context hkind
      simp [h.no_readiness ho ht hkind] at hcalled
    · cases hcalled

-- Whoever joins the worker has seen to it that it ends.
theorem Halted.joined (h : Halted w choice) (ho : Governed w) {t : Task} (ht : t ∈ w.threads)
    {rest : List Act} (htodo : t.todo = .keepalive .join :: rest) : False := by
  obtain ⟨i, hi⟩ := List.mem_iff_getElem?.1 ht
  obtain ⟨holder, hlocked⟩ := ho.attended
  have hchain := hlocked.chains i t hi
  rw [htodo] at hchain
  obtain ⟨m₁, ⟨hmode, -⟩, -⟩ := hchain
  cases h.waits ht htodo with
  | worker thread hkept hrunning =>
    obtain ⟨u, hu, hkind⟩ := hlocked.shared.kept thread hkept
    have hmem := List.mem_of_getElem? hu
    have hworking := hlocked.shared.shaped u hmem hkind
    have hparked : u.todo = [.keepalive .wait] ∧ w.shared.keepalive.stop = false := by
      cases hu' : u.todo with
      | nil => simp [finished, hu, hu'] at hrunning
      | cons a rest =>
        have hwaits := h.waits hmem hu'
        rw [hu'] at hworking
        cases hworking with
        | waiting =>
          cases hwaits with
          | events hstop _ => exact ⟨rfl, hstop⟩
        | submitting _ _ hsubmits _ =>
          exact absurd hwaits (not_waits_sections (sections_of_submits hsubmits))
        | _ => cases hwaits
    obtain hsignalled | hstarting := hmode
    · have hstop := hlocked.shared.signalled (by rw [holder_of_modeOf hsignalled]; rfl)
      rw [hparked.2] at hstop
      cases hstop
    · refine hlocked.shared.starting (by rw [holder_of_modeOf hstarting]; rfl) u hmem hkind ?_
      rw [hparked.1]
      exact .inl List.mem_cons_self

theorem Halted.no_submission (h : Halted w choice) (ho : Governed w) (id : ControllerId) :
    (w.shared.controllers id).control.submitsInFlight = 0 := by
  obtain ⟨holder, hlocked⟩ := ho.disciplined
  rw [hlocked.shared.inFlight id]
  by_contra hflight
  obtain ⟨t, ht, a, ha, hto⟩ := exists_pending hflight
  have hsubmits : a.submits = true := by
    cases hsub : a.submission with
    | none => simp [Act.submitsTo, hsub] at hto
    | some s => simp [Act.submits, hsub]
  cases htodo : t.todo with
  | nil =>
    rw [htodo] at ha
    cases ha
  | cons b rest =>
    have hexposed := ho.submits t ht
    rw [htodo] at hexposed ha
    have hwaits := h.waits ht htodo
    obtain rfl | hclears := hexposed.head ha hsubmits
    · exact not_waits_sections (sections_of_submits hsubmits) hwaits
    · cases hwaits with
      | worker thread _ _ => exact h.joined ho ht htodo
      | _ => cases hclears

-- What is left to wait for is the gate, or the worker's timer.
theorem Halted.waits_for (h : Halted w choice) (ho : Governed w) {t : Task} (ht : t ∈ w.threads)
    {a : Act} {rest : List Act} (htodo : t.todo = a :: rest) :
    (a = .lockLifetime ∧ w.shared.gateHeld = true) ∨
      (a = .keepalive .wait ∧ w.shared.keepalive.stop = false ∧
        w.shared.keepalive.signalled = false) := by
  cases h.waits ht htodo with
  | gate hheld => exact .inl ⟨rfl, hheld⟩
  | events hstop hsignalled => exact .inr ⟨rfl, hstop, hsignalled⟩
  | submits id hflight => exact absurd (h.no_submission ho id) hflight
  | callbacks handle hcalled =>
    rw [h.not_called ho handle] at hcalled
    cases hcalled
  | worker thread _ _ => exact (h.joined ho ht htodo).elim
  | pump hbusy =>
    obtain ⟨hactive, howners⟩ := h.no_loop ho
    obtain hbusy | hbusy := hbusy
    · rw [hactive] at hbusy
      cases hbusy
    · exact absurd howners hbusy
  | entries context c hc hentered => exact absurd (h.no_entries ho hc) hentered

-- The holder of the gate would have to wait for one of these.
theorem Halted.free (h : Halted w choice) (ho : Governed w) : w.shared.gateHeld = false := by
  obtain ⟨holder, hlocked⟩ := ho.attended
  rw [hlocked.shared.gate]
  cases hholder : holder with
  | none => rfl
  | some pair =>
    obtain ⟨i, m⟩ := pair
    have hi := hlocked.holder_lt _ hholder
    have hchain := hlocked.chains i _ (List.getElem?_eq_getElem hi)
    rw [hholder] at hchain
    simp only [modeOf, if_true] at hchain
    cases htodo : w.threads[i].todo with
    | nil =>
      rw [htodo] at hchain
      cases hchain
    | cons a rest =>
      rw [htodo] at hchain
      obtain ⟨m₁, hspec, -⟩ := hchain
      obtain ⟨rfl, -⟩ | ⟨rfl, -⟩ := h.waits_for ho (List.getElem_mem hi) htodo
      · cases hspec.1
      · cases hspec.2.1

theorem Halted.quiescent (h : Halted w choice) (ho : Governed w) : Quiescent w where
  returned t ht htodo := by
    obtain ⟨i, hi⟩ := List.mem_iff_getElem?.1 ht
    obtain ⟨a, rest, htodo⟩ := List.exists_cons_of_ne_nil htodo
    obtain ⟨-, hheld⟩ | ⟨rfl, hevents⟩ := h.waits_for ho ht htodo
    · rw [h.free ho] at hheld
      cases hheld
    · obtain ⟨holder, hlocked⟩ := ho.attended
      have hchain := hlocked.chains i t hi
      rw [htodo] at hchain
      obtain ⟨m₁, ⟨hkind, -, -⟩, -⟩ := hchain
      have hworking := hlocked.shared.shaped t ht hkind
      rw [htodo] at hworking
      cases hworking with
      | waiting => exact ⟨hkind, htodo, hevents⟩
      | submitting _ _ hsubmits _ => cases hsubmits
  gate := h.free ho
  settled p := by
    obtain ⟨holder, hlocked⟩ := ho.disciplined
    have hplace := hlocked.shared.places p
    have hgate := hlocked.shared.gate
    rw [h.free ho] at hgate
    cases hholder : holderMode holder with
    | none =>
      rw [hholder] at hplace
      exact hplace
    | some m =>
      rw [hholder] at hgate
      cases hgate
  submissions := h.no_submission ho
  pump := h.no_loop ho
  entries c hc := by
    obtain ⟨context, hcontext⟩ := List.mem_iff_getElem?.1 hc
    exact h.no_entries ho hcontext

end Stuck

end LibVirtualGamepad
