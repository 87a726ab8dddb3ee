import LibVirtualGamepad.Driver.NativePump.Loop

-- At most one loop runs, and it has the published child to itself.
namespace LibVirtualGamepad

open Interleaving

-- The child whose VhfReadReportSubmit a thread is about to call or to return from.
def Act.submitHandle : Act → Option Handle
  | .keyboardMouse (.submitEnter handle _) | .keyboardMouse (.submitLeave handle _) => some handle
  | _ => none

def Act.loopContext : Act → Option Nat
  | .keyboardMouse act => act.loopContext
  | _ => none

theorem pumping_of_submitting {a : Act} (h : a.submitting = true) : a.pumping = true := by
  cases a with
  | keyboardMouse act => cases act <;> first | rfl | simp [Act.submitting, KeyboardMouseAct.submitting] at h
  | _ => simp [Act.submitting] at h

theorem pumping_of_submitHandle {a : Act} {handle : Handle} (h : a.submitHandle = some handle) :
    a.pumping = true := by
  cases a with
  | keyboardMouse act => cases act <;> first | rfl | simp [Act.submitHandle] at h
  | _ => simp [Act.submitHandle] at h

theorem submitHandle_of_submitting {a : Act} (h : a.submitting = true) :
    ∃ handle, a.submitHandle = some handle := by
  cases a with
  | keyboardMouse act =>
      cases act with
      | submitEnter handle _ | submitLeave handle _ => exact ⟨handle, rfl⟩
      | _ => simp [Act.submitting, KeyboardMouseAct.submitting] at h
  | _ => simp [Act.submitting] at h

theorem pumping_of_loopContext {a : Act} {context : Nat} (h : a.loopContext = some context) :
    a.pumping = true := by
  cases a with
  | keyboardMouse act =>
      cases act <;> first | rfl | simp [Act.loopContext, KeyboardMouseAct.loopContext] at h
  | _ => simp [Act.loopContext] at h

abbrev looping (threads : List Task) : Nat := pending (fun _ => Act.pumping) threads
abbrev insideVhf (threads : List Task) : Nat := pending (fun _ => Act.submitting) threads

theorem insideVhf_le (threads : List Task) : insideVhf threads ≤ looping threads :=
  pending_mono (fun _ _ => pumping_of_submitting) threads

-- The flag and the counter tell what the threads do, and a loop keeps to the child and
-- to the activation that it has started with.
structure Counted (w : World) : Prop where
  one : looping w.threads = if w.shared.keyboardMouse.pumpActive then 1 else 0
  inside : insideVhf w.threads = w.shared.keyboardMouse.submitOwners
  published : w.shared.keyboardMouse.pumpActive = true → w.shared.keyboardMouse.vhf.isSome
  handle : ∀ t ∈ w.threads, ∀ a ∈ t.todo, ∀ handle : Handle, a.submitHandle = some handle →
    w.shared.keyboardMouse.vhf = some handle
  current : ∀ t ∈ w.threads, ∀ a ∈ t.todo, ∀ context : Nat, a.loopContext = some context →
    w.shared.keyboardMouse.callbackContext = some context

variable {w w' : World} {i : Nat} {choice : Choice}

-- Without the flag nothing is left of any loop.
theorem Counted.idle (h : Counted w) (hactive : w.shared.keyboardMouse.pumpActive = false) :
    looping w.threads = 0 ∧ w.shared.keyboardMouse.submitOwners = 0 := by
  have hone := h.one
  rw [hactive] at hone
  have hle := insideVhf_le w.threads
  have hinside := h.inside
  simp only [Bool.false_eq_true, if_false] at hone
  exact ⟨hone, by omega⟩

theorem Counted.unpublished (h : Counted w) (hvhf : w.shared.keyboardMouse.vhf = none) :
    w.shared.keyboardMouse.pumpActive = false := by
  cases hactive : w.shared.keyboardMouse.pumpActive with
  | false => rfl
  | true =>
      have hsome := h.published hactive
      rw [hvhf] at hsome
      simp at hsome

theorem Counted.active (h : Counted w) {t : Task} {a : Act} (ht : t ∈ w.threads) (ha : a ∈ t.todo)
    (hp : a.pumping = true) : w.shared.keyboardMouse.pumpActive = true := by
  cases hactive : w.shared.keyboardMouse.pumpActive with
  | true => rfl
  | false =>
      have hpos : 0 < looping w.threads := pending_pos ht ha hp
      have hzero := (h.idle hactive).1
      omega

theorem counted_of_idle (hlooping : looping w.threads = 0)
    (hactive : w.shared.keyboardMouse.pumpActive = false)
    (howners : w.shared.keyboardMouse.submitOwners = 0) : Counted w := by
  have hnone := (pending_eq_zero_iff (fun _ => Act.pumping) w.threads).mp hlooping
  refine ⟨?_, ?_, fun h => ?_, fun t ht a ha handle h => ?_, fun t ht a ha context h => ?_⟩
  · rw [hlooping, hactive]
    rfl
  · have hle := insideVhf_le w.threads
    omega
  · rw [hactive] at h
    simp at h
  · have hp := hnone t ht a ha
    rw [pumping_of_submitHandle h] at hp
    simp at hp
  · have hp := hnone t ht a ha
    rw [pumping_of_loopContext h] at hp
    simp at hp

-- New threads and what most acts lead to are no part of a loop.
theorem pending_spawn {p : Operation → Act → Bool} {spawn : List Task}
    (hp : ∀ k a, p k a = true → a.isKeyboardMouse = true)
    (h : ∀ t ∈ spawn, ∀ b ∈ t.todo, b.isKeyboardMouse = false) : pending p spawn = 0 := by
  refine (pending_eq_zero_iff p spawn).mpr fun t ht b hb => ?_
  cases hpb : p t.kind b with
  | false => rfl
  | true =>
      have hno := h t ht b hb
      rw [hp _ _ hpb] at hno
      simp at hno

theorem isKeyboardMouse_of_pumping {a : Act} (h : a.pumping = true) : a.isKeyboardMouse = true := by
  cases a <;> first | rfl | simp [Act.pumping] at h

section After

variable (s : System.ActStep driver w i choice w')
  (hspawn : ∀ t ∈ s.outcome.spawn, ∀ b ∈ t.todo, b.isKeyboardMouse = false)
include hspawn

theorem looping_after : looping w'.threads + (if s.act.pumping then 1 else 0) =
    looping w.threads + s.outcome.next.countP Act.pumping := by
  have heq := s.pending_eq fun _ => Act.pumping
  rw [pending_spawn (fun _ _ => isKeyboardMouse_of_pumping) hspawn] at heq
  exact heq

theorem insideVhf_after : insideVhf w'.threads + (if s.act.submitting then 1 else 0) =
    insideVhf w.threads + s.outcome.next.countP Act.submitting := by
  have heq := s.pending_eq fun _ => Act.submitting
  rw [pending_spawn (fun _ _ hs => isKeyboardMouse_of_pumping (pumping_of_submitting hs)) hspawn] at heq
  exact heq

end After

-- An act that keeps the child and the activation, with as much of a loop before it as
-- behind it.
theorem Counted.step (h : Counted w) (s : System.ActStep driver w i choice w')
    (hspawn : ∀ t ∈ s.outcome.spawn, ∀ b ∈ t.todo, b.isKeyboardMouse = false)
    (hvhf : w'.shared.keyboardMouse.vhf = w.shared.keyboardMouse.vhf)
    (hcontext : w'.shared.keyboardMouse.callbackContext = w.shared.keyboardMouse.callbackContext)
    (hone : (if w'.shared.keyboardMouse.pumpActive then 1 else 0) + (if s.act.pumping then 1 else 0) =
      (if w.shared.keyboardMouse.pumpActive then 1 else 0) + s.outcome.next.countP Act.pumping)
    (hinside : w'.shared.keyboardMouse.submitOwners + (if s.act.submitting then 1 else 0) =
      w.shared.keyboardMouse.submitOwners + s.outcome.next.countP Act.submitting)
    (hpublished : w'.shared.keyboardMouse.pumpActive = true → w.shared.keyboardMouse.vhf.isSome)
    (hhandle : ∀ b ∈ s.outcome.next, ∀ handle, b.submitHandle = some handle →
      w.shared.keyboardMouse.vhf = some handle)
    (hcurrent : ∀ b ∈ s.outcome.next, ∀ context, b.loopContext = some context →
      w.shared.keyboardMouse.callbackContext = some context) : Counted w' := by
  have hlater : ∀ {b : Act} {u : Task}, b.pumping = true → u ∈ w'.threads → b ∈ u.todo →
      b ∈ s.outcome.next ∨ ∃ t ∈ w.threads, b ∈ t.todo := by
    intro b u hb hu hmem
    rcases s.todo_after hu hmem with hnext | hold | ⟨t, ht, hbt⟩
    · exact .inl hnext
    · exact .inr hold
    · have hno := hspawn t ht b hbt
      rw [isKeyboardMouse_of_pumping hb] at hno
      simp at hno
  refine ⟨?_, ?_, fun hactive => hvhf ▸ hpublished hactive, fun u hu b hb handle hsome => ?_,
    fun u hu b hb context hsome => ?_⟩
  · have heq := looping_after s hspawn
    have hbefore := h.one
    omega
  · have heq := insideVhf_after s hspawn
    have hbefore := h.inside
    omega
  · rw [hvhf]
    rcases hlater (pumping_of_submitHandle hsome) hu hb with hnext | ⟨t, ht, hbt⟩
    · exact hhandle b hnext handle hsome
    · exact h.handle t ht b hbt handle hsome
  · rw [hcontext]
    rcases hlater (pumping_of_loopContext hsome) hu hb with hnext | ⟨t, ht, hbt⟩
    · exact hcurrent b hnext context hsome
    · exact h.current t ht b hbt context hsome

theorem Counted.calm (h : Counted w) (s : System.ActStep driver w i choice w')
    (ha : s.act.pumping = false) (hnext : ∀ b ∈ s.outcome.next, b.pumping = false)
    (hspawn : ∀ t ∈ s.outcome.spawn, ∀ b ∈ t.todo, b.isKeyboardMouse = false)
    (hsame : SameLoop w.shared w'.shared) : Counted w' := by
  have hnone : ∀ p : Act → Bool, (∀ a, p a = true → a.pumping = true) →
      p s.act = false ∧ s.outcome.next.countP p = 0 := by
    intro p hp
    have hfalse : ∀ a : Act, a.pumping = false → p a = false := by
      intro a hno
      cases hpa : p a with
      | false => rfl
      | true =>
          rw [hp a hpa] at hno
          simp at hno
    exact ⟨hfalse _ ha, List.countP_eq_zero.mpr fun b hb => by simp [hfalse b (hnext b hb)]⟩
  obtain ⟨-, hpumping⟩ := hnone Act.pumping fun _ hp => hp
  obtain ⟨hact, hsubmitting⟩ := hnone Act.submitting fun _ hp => pumping_of_submitting hp
  refine h.step s hspawn hsame.vhf hsame.callbackContext ?_ ?_ (fun hactive => ?_)
    (fun b hb handle hsome => ?_) fun b hb context hsome => ?_
  · rw [hsame.pumpActive, ha, hpumping]
    rfl
  · rw [hsame.submitOwners, hact, hsubmitting]
    rfl
  · rw [hsame.pumpActive] at hactive
    exact h.published hactive
  · have hno := hnext b hb
    rw [pumping_of_submitHandle hsome] at hno
    simp at hno
  · have hno := hnext b hb
    rw [pumping_of_loopContext hsome] at hno
    simp at hno

-- While no loop runs the child may be published and taken back.
theorem Counted.quiescent (h : Counted w) (s : System.ActStep driver w i choice w')
    (hidle : w.shared.keyboardMouse.pumpActive = false)
    (hnext : ∀ b ∈ s.outcome.next, b.pumping = false)
    (hspawn : ∀ t ∈ s.outcome.spawn, ∀ b ∈ t.todo, b.isKeyboardMouse = false)
    (hactive : w'.shared.keyboardMouse.pumpActive = false)
    (howners : w'.shared.keyboardMouse.submitOwners = 0) : Counted w' := by
  refine counted_of_idle ?_ hactive howners
  have heq := looping_after s hspawn
  have hnone : s.outcome.next.countP Act.pumping = 0 :=
    List.countP_eq_zero.mpr fun b hb => by simp [hnext b hb]
  have hzero := (h.idle hidle).1
  omega

theorem pumpAdmitted_published {d : Device} {context : Option Nat}
    (h : d.pumpAdmitted context = true) : d.keyboardMouse.vhf.isSome = true ∧
      (d.keyboardMouse.state = .starting ∨ d.keyboardMouse.state = .active) ∧
        ∀ c, context = some c → d.callbackIsCurrent c = true := by
  simp only [Device.pumpAdmitted, Bool.and_eq_true, Bool.or_eq_true, beq_iff_eq] at h
  obtain ⟨⟨⟨⟨-, hvhf⟩, hcurrent⟩, hstate⟩, -⟩ := h
  refine ⟨hvhf, hstate, fun c hc => ?_⟩
  rw [hc] at hcurrent
  exact hcurrent

theorem callbackContext_of_current {d : Device} {c : Nat} (h : d.callbackIsCurrent c = true) :
    d.keyboardMouse.callbackContext = some c := by
  simp only [Device.callbackIsCurrent, Bool.and_eq_true, beq_iff_eq] at h
  exact h.1.1

section Running

variable (s : System.ActStep driver w i choice w') {act : KeyboardMouseAct}

theorem keyboardMouse_exec (hact : s.act = .keyboardMouse act) :
    act.exec w.shared s.thread.regs choice = some s.outcome := by
  have h := s.exec
  rw [hact] at h
  exact h

theorem act_mem : s.act ∈ s.thread.todo := by
  rw [s.todo]
  exact List.mem_cons_self

theorem Counted.pumpEnter {context : Option Nat} (h : Counted w)
    (hact : s.act = .keyboardMouse (.pumpEnter context)) : Counted w' := by
  have hexec := keyboardMouse_exec s hact
  have hshared := s.shared_after
  simp only [KeyboardMouseAct.exec] at hexec
  split at hexec
  · have ho := Option.some.inj hexec
    refine h.calm s (by rw [hact]; rfl) (by simp [← ho, Device.effect]) (by simp [← ho, Device.effect])
      (.of_eq ?_)
    rw [hshared, ← ho]
    rfl
  · rename_i hfree
    simp only [Bool.or_eq_true, Bool.not_eq_true', not_or, Bool.not_eq_false, Bool.not_eq_true] at hfree
    obtain ⟨hadmitted, hactive⟩ := hfree
    obtain ⟨hvhf, -, hcurrent⟩ := pumpAdmitted_published hadmitted
    have ho := Option.some.inj hexec
    rw [← ho] at hshared
    refine h.step s (by simp [← ho, Device.effect]) (by rw [hshared]; rfl) (by rw [hshared]; rfl) ?_ ?_
      (fun _ => hvhf) (fun b hb handle hsome => ?_) fun b hb c hsome => ?_
    · rw [hshared, ← ho, hact, hactive]
      rfl
    · rw [hshared, ← ho, hact]
      rfl
    · rw [← ho] at hb
      rw [List.mem_singleton.mp hb] at hsome
      simp [Act.submitHandle] at hsome
    · rw [← ho] at hb
      rw [List.mem_singleton.mp hb] at hsome
      exact callbackContext_of_current (hcurrent c hsome)

theorem Counted.pumpTake {context : Option Nat} (h : Counted w)
    (hact : s.act = .keyboardMouse (.pumpTake context)) : Counted w' := by
  have hexec := keyboardMouse_exec s hact
  have hshared := s.shared_after
  have hactive := h.active s.mem (act_mem s) (by rw [hact]; rfl)
  simp only [KeyboardMouseAct.exec] at hexec
  split at hexec
  · have ho := Option.some.inj hexec
    obtain ⟨handle, hvhf⟩ := Option.isSome_iff_exists.mp (h.published hactive)
    have hnext : s.outcome.next = [.keyboardMouse (.submitEnter handle context)] := by
      rw [← ho]
      simp only [Device.effect, hvhf]
    rw [← ho] at hshared
    refine h.step s (by simp [← ho, Device.effect]) (by rw [hshared]; rfl) (by rw [hshared]; rfl) ?_ ?_
      (fun _ => h.published hactive) (fun b hb handle' hsome => ?_) fun b hb c hsome => ?_
    · rw [hnext, hshared, hact]
      rfl
    · rw [hnext, hshared, hact]
      rfl
    · rw [hnext] at hb
      rw [List.mem_singleton.mp hb] at hsome
      obtain rfl := Option.some.inj hsome
      exact hvhf
    · rw [hnext] at hb
      rw [List.mem_singleton.mp hb] at hsome
      refine h.current s.thread s.mem s.act (act_mem s) c ?_
      rw [hact]
      exact hsome
  · have ho := Option.some.inj hexec
    have hnext : s.outcome.next = [] := by rw [← ho]; rfl
    rw [← ho] at hshared
    refine h.step s (by simp [← ho, Device.effect]) (by rw [hshared]; rfl) (by rw [hshared]; rfl) ?_ ?_
      (fun _ => h.published hactive) (by simp [hnext]) (by simp [hnext])
    · rw [hnext, hshared, hact, hactive]
      rfl
    · rw [hnext, hshared, hact]
      rfl

theorem Counted.submitEnter {handle : Handle} {context : Option Nat} (h : Counted w)
    (hact : s.act = .keyboardMouse (.submitEnter handle context)) : Counted w' := by
  have ho := Option.some.inj (keyboardMouse_exec s hact)
  have hshared : w'.shared = w.shared := by
    rw [s.shared_after, ← ho]
    rfl
  have hnext : s.outcome.next = [.keyboardMouse (.submitLeave handle context)] := by rw [← ho]; rfl
  refine h.step s (by simp [← ho, Device.effect]) (by rw [hshared]) (by rw [hshared]) ?_ ?_ ?_
    (fun b hb handle' hsome => ?_) fun b hb c hsome => ?_
  · rw [hnext, hshared, hact]
    rfl
  · rw [hnext, hshared, hact]
    rfl
  · rw [hshared]
    exact h.published
  · rw [hnext] at hb
    rw [List.mem_singleton.mp hb] at hsome
    -- It returns from the child that it was called for.
    refine h.handle s.thread s.mem s.act (act_mem s) handle' ?_
    rw [hact]
    exact hsome
  · rw [hnext] at hb
    rw [List.mem_singleton.mp hb] at hsome
    refine h.current s.thread s.mem s.act (act_mem s) c ?_
    rw [hact]
    exact hsome

theorem Counted.submitLeave {handle : Handle} {context : Option Nat} (h : Counted w)
    (hact : s.act = .keyboardMouse (.submitLeave handle context)) : Counted w' := by
  have hexec := keyboardMouse_exec s hact
  have hshared := s.shared_after
  have hactive := h.active s.mem (act_mem s) (by rw [hact]; rfl)
  -- The submission is one of those that are counted.
  have howners : 0 < w.shared.keyboardMouse.submitOwners := by
    rw [← h.inside]
    exact pending_pos s.mem (act_mem s) (by rw [hact]; rfl)
  have hends : ∀ d : Device, d.keyboardMouse.pumpActive = false →
      d.keyboardMouse.submitOwners = w.shared.keyboardMouse.submitOwners - 1 →
      d.keyboardMouse.vhf = w.shared.keyboardMouse.vhf →
      d.keyboardMouse.callbackContext = w.shared.keyboardMouse.callbackContext →
      w'.shared = d → s.outcome.next = [] → s.outcome.spawn = [] → Counted w' := by
    rintro d hstopped hone hvhf hcontext rfl hnext hspawn
    refine h.step s (by simp [hspawn]) hvhf hcontext ?_ ?_ (fun _ => h.published hactive)
      (by simp [hnext]) (by simp [hnext])
    · rw [hnext, hact, hstopped, hactive]
      rfl
    · rw [hnext, hact, hone]
      show _ - 1 + 1 = _ + 0
      omega
  simp only [KeyboardMouseAct.exec] at hexec
  split at hexec
  · have ho := Option.some.inj hexec
    exact hends s.outcome.shared (by rw [← ho]; rfl) (by rw [← ho]; rfl) (by rw [← ho]; rfl)
      (by rw [← ho]; rfl) hshared (by rw [← ho]; rfl) (by rw [← ho]; rfl)
  · split at hexec
    · have ho := Option.some.inj hexec
      have hnext : s.outcome.next = [.keyboardMouse (.pumpTake context)] := by rw [← ho]; rfl
      rw [← ho] at hshared
      refine h.step s (by simp [← ho, Device.effect]) (by rw [hshared]; rfl) (by rw [hshared]; rfl) ?_ ?_
        (fun _ => h.published hactive) (fun b hb handle' hsome => ?_) fun b hb c hsome => ?_
      · rw [hnext, hshared, hact]
        rfl
      · rw [hnext, hshared, hact]
        show _ - 1 + 1 = _ + 0
        omega
      · rw [hnext] at hb
        rw [List.mem_singleton.mp hb] at hsome
        simp [Act.submitHandle] at hsome
      · rw [hnext] at hb
        rw [List.mem_singleton.mp hb] at hsome
        refine h.current s.thread s.mem s.act (act_mem s) c ?_
        rw [hact]
        exact hsome
    · have ho := Option.some.inj hexec
      exact hends s.outcome.shared (by rw [← ho]; rfl) (by rw [← ho]; rfl) (by rw [← ho]; rfl)
        (by rw [← ho]; rfl) hshared (by rw [← ho]; rfl) (by rw [← ho]; rfl)

end Running

section Whole

variable {d : Device} {regs : Registers} {threads : List Task} {k : Operation} {o : Effect} {a : Act}

theorem keyboardMouse_of_isKeyboardMouse (h : a.isKeyboardMouse = true) :
    ∃ act, a = .keyboardMouse act := by
  cases a with
  | keyboardMouse act => exact ⟨act, rfl⟩
  | _ => simp [Act.isKeyboardMouse] at h

theorem exec_fronts (h : a.exec threads d k regs choice = some o) : Fronts o.next := by
  cases ha : a.isKeyboardMouse with
  | true =>
      obtain ⟨act, rfl⟩ := keyboardMouse_of_isKeyboardMouse ha
      exact keyboardMouse_fronts h
  | false => exact (other_next ha h).1

theorem exec_spawn (h : a.exec threads d k regs choice = some o) :
    ∀ t ∈ o.spawn, ∀ b ∈ t.todo, b.isKeyboardMouse = false := by
  intro t ht b hb
  rw [spawn_worker h t ht] at hb
  rw [List.mem_singleton.mp hb]
  rfl

-- Behind any act but the first half of a pair no second half stands.
theorem Ordered.rest {rest : List Act} (h : Ordered (a :: rest)) :
    a = .keyboardMouse .drain ∨ (∃ context, a = .keyboardMouse (.drainEntries context)) ∨
      ∀ b, rest.head? = some b → b.unordered = true := by
  cases rest with
  | nil => exact .inr (.inr (by simp))
  | cons b rest =>
      obtain ⟨⟨hdetach, hrelease⟩, -⟩ := List.isChain_cons_cons.mp h
      by_cases hb : b.unordered = true
      · refine .inr (.inr fun c hc => ?_)
        obtain rfl := Option.some.inj hc
        exact hb
      · unfold Act.unordered at hb
        split at hb
        · exact .inl (hdetach _ rfl)
        · exact .inr (.inl ⟨_, hrelease _ _ rfl⟩)
        · simp at hb

theorem drain_next (h : a.exec threads d k regs choice = some o)
    (ha : a = .keyboardMouse .drain ∨ ∃ context, a = .keyboardMouse (.drainEntries context)) :
    o.next = [] := by
  rcases ha with rfl | ⟨context, rfl⟩
  · simp only [Act.exec, KeyboardMouseAct.exec] at h
    split at h <;> cases h
    rfl
  · simp only [Act.exec, KeyboardMouseAct.exec] at h
    repeat' split at h
    all_goals cases h
    all_goals rfl

theorem ordered_after (hw : ∀ t ∈ w.threads, Ordered t.todo) (s : System.ActStep driver w i choice w') :
    ∀ t ∈ w'.threads, Ordered t.todo := by
  intro t ht
  rcases s.mem_after t ht with rfl | hold | hnew
  · have hfronts := exec_fronts (k := s.thread.kind) s.exec
    have hbefore := hw s.thread s.mem
    rw [s.todo] at hbefore
    have hrest : Ordered s.rest := by
      cases hrest : s.rest with
      | nil => exact .nil
      | cons b rest =>
          rw [hrest] at hbefore
          exact (List.isChain_cons_cons.mp hbefore).2
    show Ordered (s.outcome.next ++ s.rest)
    rcases hbefore.rest with hdrain | hentries | hhead
    · rw [drain_next (k := s.thread.kind) s.exec (.inl hdrain)]
      exact hrest
    · rw [drain_next (k := s.thread.kind) s.exec (.inr hentries)]
      exact hrest
    · exact hfronts.ordered.append hrest hhead
  · exact hw t hold
  · refine ordered_of_unordered fun b hb => ?_
    have hno := exec_spawn (k := s.thread.kind) s.exec t hnew b hb
    cases b with
    | keyboardMouse act => simp [Act.isKeyboardMouse] at hno
    | _ => rfl

-- The flag is raised only where a loop is let in.
theorem pumpActive_after (h : a.exec threads d k regs choice = some o)
    (hactive : o.shared.keyboardMouse.pumpActive = true) : d.keyboardMouse.pumpActive = true ∨
      ∃ context, a = .keyboardMouse (.pumpEnter context) ∧ d.pumpAdmitted context = true := by
  cases ha : a.isKeyboardMouse with
  | false => exact .inl ((other_loop ha h).pumpActive ▸ hactive)
  | true =>
      obtain ⟨act, rfl⟩ := keyboardMouse_of_isKeyboardMouse ha
      have hexec : act.exec d regs choice = some o := h
      cases hbefore : d.keyboardMouse.pumpActive with
      | true => exact .inl rfl
      | false =>
          have hnever : o.shared.keyboardMouse.pumpActive = false → False := by
            intro hidle
            rw [hidle] at hactive
            simp at hactive
          cases hquiet : act.quiescent with
          | true => exact (hnever ((keyboardMouse_quiescent hquiet hexec).pumpActive hbefore)).elim
          | false =>
              cases hrun : act.running with
              | false => exact (hnever ((keyboardMouse_calm hrun hquiet hexec).pumpActive.trans hbefore)).elim
              | true =>
                  cases act with
                  | pumpEnter context =>
                      simp only [KeyboardMouseAct.exec] at hexec
                      split at hexec <;> cases hexec
                      · exact (hnever hbefore).elim
                      · rename_i hfree
                        simp only [Bool.or_eq_true, Bool.not_eq_true', not_or, Bool.not_eq_false] at hfree
                        exact .inr ⟨context, rfl, hfree.1⟩
                  | pumpTake context | submitEnter handle context | submitLeave handle context =>
                      simp only [KeyboardMouseAct.exec] at hexec
                      repeat' split at hexec
                      all_goals cases hexec
                      all_goals first
                        | exact (hnever hbefore).elim
                        | exact (hnever rfl).elim
                  | _ => simp [KeyboardMouseAct.running] at hrun

end Whole

-- A stop goes on once no loop runs.
structure PumpLoop (w : World) : Prop where
  counted : Counted w
  ordered : ∀ t ∈ w.threads, Ordered t.todo
  drained : ∀ (i : Nat) (t : Task), w.threads[i]? = some t → ∀ retain rest,
    t.todo = .keyboardMouse (.detach retain) :: rest → w.shared.keyboardMouse.pumpActive = false

section Heads

variable {j : Nat} {t : Task} {rest : List Act}

-- What is about to be detached or released is not starting and not active.
theorem stopped_at_detach (h : Disciplined w) (ht : w.threads[j]? = some t) {retain : Bool}
    (htodo : t.todo = .keyboardMouse (.detach retain) :: rest) :
    w.shared.keyboardMouse.state ≠ .starting ∧ w.shared.keyboardMouse.state ≠ .active := by
  obtain ⟨m, m₁, ⟨M, φ, rfl, hM, -, -⟩, hst⟩ := h.at_head ht htodo
  have hp := standings_some hst .keyboardMouse
  cases hphase : M .keyboardMouse with
  | settled =>
      rw [hphase] at hM
      exact hM.elim
  | retired =>
      rw [hphase] at hp
      obtain ⟨state, hstate, hstands⟩ := hp
      have hs : w.shared.keyboardMouse.state = state := hstands.state
      rcases hstate with rfl | rfl <;> simp [hs]
  | busy owner stage =>
      rw [hphase] at hp hM
      have hs : w.shared.keyboardMouse.state = stage.standing.state := hp.2.1.state
      cases stage <;> first | exact hM.elim | simp [hs, Stage.standing, Standing.idle]

-- The slot shows no child where one is taken in, given back or not yet there.
theorem unpublished_at (h : Disciplined w) (ht : w.threads[j]? = some t) {act : KeyboardMouseAct}
    (htodo : t.todo = .keyboardMouse act :: rest)
    (hact : act = .reset ∨ (∃ owner context, act = .vhfCreate owner context) ∨
      (∃ owner context handle, act = .publish owner context handle) ∨
        ∃ lostOwner context, act = .release lostOwner context) :
    w.shared.keyboardMouse.vhf = none := by
  obtain ⟨m, m₁, hspec, hst⟩ := h.at_head ht htodo
  rcases hact with rfl | ⟨owner, context, rfl⟩ | ⟨owner, context, handle, rfl⟩ | ⟨lostOwner, context, rfl⟩
  · obtain ⟨owner, rfl, -⟩ := hspec
    have hp := standings_some hst .keyboardMouse
    rw [Mode.busyAt_same] at hp
    exact hp.2.1.vhf
  · obtain ⟨rfl, -⟩ := hspec
    have hp := standings_some hst .keyboardMouse
    rw [Mode.busyAt_same] at hp
    exact hp.2.1.vhf
  · obtain ⟨rfl, -⟩ := hspec
    have hp := standings_some hst .keyboardMouse
    rw [Mode.busyAt_same] at hp
    exact hp.2.1.vhf
  · obtain ⟨M, φ, rfl, hM, -, -⟩ := hspec
    have hp := standings_some hst .keyboardMouse
    rcases hM with hM | ⟨owner, hM⟩
    · rw [hM] at hp
      obtain ⟨state, -, hstands⟩ := hp
      exact hstands.vhf
    · rw [hM] at hp
      exact hp.2.1.vhf

end Heads

namespace PumpLoop

-- No loop runs where a slot is replaced.
theorem idle_at (h : PumpLoop w) (hd : Disciplined w) (s : System.ActStep driver w i choice w')
    {act : KeyboardMouseAct} (hact : s.act = .keyboardMouse act) (hquiet : act.quiescent = true)
    (hchanged : ¬ SameLoop w.shared w'.shared) : w.shared.keyboardMouse.pumpActive = false := by
  have htodo := s.todo
  rw [hact] at htodo
  cases act with
  | openBegin owner generation childPresent =>
      obtain ⟨m, m₁, ⟨rfl, -⟩, hst⟩ := hd.at_head s.at_index htodo
      have hsettled : Settled w.shared .keyboardMouse := standings_some hst .keyboardMouse
      refine h.counted.unpublished ?_
      by_contra hvhf
      refine hchanged ?_
      rcases hsettled with ⟨state, -, hstands⟩ | ⟨handle, hstands⟩
      · exact absurd hstands.vhf hvhf
      · have hactive : w.shared.keyboardMouse.state = .active := hstands.state
        have hexec := keyboardMouse_exec s hact
        simp only [KeyboardMouseAct.exec, KeyboardMouseSlot.available, hactive] at hexec
        rw [s.shared_after]
        split at hexec
        · rw [← Option.some.inj hexec]
          exact .of_eq rfl
        · rw [if_pos (by simp)] at hexec
          rw [← Option.some.inj hexec]
          exact .of_eq rfl
  | publish owner context handle =>
      exact h.counted.unpublished (unpublished_at hd s.at_index htodo (.inr (.inr (.inl ⟨_, _, _, rfl⟩))))
  | reset => exact h.counted.unpublished (unpublished_at hd s.at_index htodo (.inl rfl))
  | detach retain => exact h.drained i s.thread s.at_index retain s.rest htodo
  | release lostOwner context =>
      exact h.counted.unpublished (unpublished_at hd s.at_index htodo (.inr (.inr (.inr ⟨_, _, rfl⟩))))
  | _ => simp [KeyboardMouseAct.quiescent] at hquiet

theorem counted_after (h : PumpLoop w) (hd : Disciplined w) (s : System.ActStep driver w i choice w') :
    Counted w' := by
  have hspawn := exec_spawn (k := s.thread.kind) s.exec
  cases ha : s.act.isKeyboardMouse with
  | false =>
      have hnot : ∀ b : Act, b.isKeyboardMouse = false → b.pumping = false := by
        intro b hb
        cases b <;> first | rfl | simp [Act.isKeyboardMouse] at hb
      refine h.counted.calm s (hnot _ ha) (fun b hb => ?_) hspawn ?_
      · cases hb' : b.isKeyboardMouse with
        | false => exact hnot b hb'
        | true =>
            rcases (other_next (k := s.thread.kind) ha s.exec).2 b hb hb' with rfl | ⟨retain, rfl⟩ <;> rfl
      · rw [s.shared_after]
        exact other_loop (k := s.thread.kind) ha s.exec
  | true =>
      obtain ⟨act, hact⟩ := keyboardMouse_of_isKeyboardMouse ha
      have hexec := keyboardMouse_exec s hact
      cases hrun : act.running with
      | true =>
          cases act with
          | pumpEnter context => exact h.counted.pumpEnter s hact
          | pumpTake context => exact h.counted.pumpTake s hact
          | submitEnter handle context => exact h.counted.submitEnter s hact
          | submitLeave handle context => exact h.counted.submitLeave s hact
          | _ => simp [KeyboardMouseAct.running] at hrun
      | false =>
          have hnext := keyboardMouse_not_pumping hrun hexec
          have hpumping : s.act.pumping = false := by
            rw [hact]
            cases act <;> first | rfl | simp [KeyboardMouseAct.running] at hrun
          by_cases hsame : SameLoop w.shared w'.shared
          · exact h.counted.calm s hpumping hnext hspawn hsame
          · cases hquiet : act.quiescent with
            | true =>
                have hidle := h.idle_at hd s hact hquiet hsame
                have hstays := keyboardMouse_quiescent hquiet hexec
                rw [← s.shared_after] at hstays
                exact h.counted.quiescent s hidle hnext hspawn (hstays.pumpActive hidle)
                  (hstays.submitOwners (h.counted.idle hidle).2)
            | false =>
                have hcalm := keyboardMouse_calm hrun hquiet hexec
                rw [← s.shared_after] at hcalm
                exact absurd hcalm hsame

theorem act (h : PumpLoop w) (hd : Disciplined w) (s : System.ActStep driver w i choice w') :
    PumpLoop w' := by
  refine ⟨h.counted_after hd s, ordered_after h.ordered s, fun j u hu retain rest htodo => ?_⟩
  rcases s.head_after hu htodo with ⟨-, -, hnext, hrest⟩ | ⟨-, -, hfirst⟩ | ⟨-, hold⟩ | hnew
  · -- Only the wait for the loops stands in front of it.
    have hordered := h.ordered s.thread s.mem
    rw [s.todo, hrest] at hordered
    have hdrain : s.act = .keyboardMouse .drain := (List.isChain_cons_cons.mp hordered).1.1 retain rfl
    have hexec := keyboardMouse_exec s hdrain
    simp only [KeyboardMouseAct.exec] at hexec
    split at hexec
    · simp at hexec
    · rename_i hfree
      simp only [Bool.or_eq_true, not_or, Bool.not_eq_true] at hfree
      rw [s.shared_after, ← Option.some.inj hexec]
      exact hfree.1
  · have hunordered := (exec_fronts (k := s.thread.kind) s.exec).head _ hfirst
    simp [Act.unordered] at hunordered
  · have hbefore := h.drained j u hold retain rest htodo
    cases hafter : w'.shared.keyboardMouse.pumpActive with
    | false => rfl
    | true =>
        rw [s.shared_after] at hafter
        rcases pumpActive_after (k := s.thread.kind) s.exec hafter with hactive | ⟨context, -, hadmitted⟩
        · exact absurd (hbefore.symm.trans hactive) (by simp)
        · obtain ⟨hstarting, hactive⟩ := stopped_at_detach hd hold htodo
          rcases (pumpAdmitted_published hadmitted).2.1 with hs | hs
          · exact absurd hs hstarting
          · exact absurd hs hactive
  · have hno := exec_spawn (k := s.thread.kind) s.exec u hnew (.keyboardMouse (.detach retain))
      (by rw [htodo]; simp)
    simp [Act.isKeyboardMouse] at hno

theorem env {stimulus : Stimulus} (h : PumpLoop w) (hstep : driver.step w (.env stimulus) = some w') :
    PumpLoop w' := by
  rcases environment_cases hstep with ⟨keepalive, hshared, hthreads⟩ | ⟨operation, -, hshared, hthreads⟩
  · obtain ⟨shared, threads⟩ := w'
    obtain rfl : threads = w.threads := hthreads
    obtain rfl : shared = _ := hshared
    exact ⟨⟨h.counted.one, h.counted.inside, h.counted.published, h.counted.handle, h.counted.current⟩,
      h.ordered, h.drained⟩
  · have hplain : ∀ a ∈ operation.program, a.pumping = false ∧ a.unordered = true := by
      intro a ha
      cases program_starts a ha <;> exact ⟨rfl, rfl⟩
    have hnone : ∀ p : Act → Bool, (∀ a, p a = true → a.pumping = true) →
        pending (fun _ => p) [operation.start] = 0 := by
      intro p hp
      refine (pending_eq_zero_iff _ _).mpr fun t ht a ha => ?_
      obtain rfl := List.mem_singleton.mp ht
      cases hpa : p a with
      | false => rfl
      | true => exact absurd ((hplain a ha).1.symm.trans (hp a hpa)) (by simp)
    have hmem : ∀ t ∈ w'.threads, t ∈ w.threads ∨ t = operation.start := by
      intro t ht
      rw [hthreads] at ht
      rcases List.mem_append.mp ht with ht | ht
      · exact .inl ht
      · exact .inr (List.mem_singleton.mp ht)
    refine ⟨⟨?_, ?_, ?_, fun t ht a ha handle hsome => ?_, fun t ht a ha context hsome => ?_⟩,
      fun t ht => ?_, fun i t ht retain rest htodo => ?_⟩
    · rw [hthreads, hshared, ← h.counted.one]
      exact (pending_append _ _ _).trans (by rw [hnone _ fun _ hp => hp]; rfl)
    · rw [hthreads, hshared, ← h.counted.inside]
      exact (pending_append _ _ _).trans (by rw [hnone _ fun _ => pumping_of_submitting]; rfl)
    · rw [hshared]
      exact h.counted.published
    · rw [hshared]
      rcases hmem t ht with hold | rfl
      · exact h.counted.handle t hold a ha handle hsome
      · exact absurd ((hplain a ha).1.symm.trans (pumping_of_submitHandle hsome)) (by simp)
    · rw [hshared]
      rcases hmem t ht with hold | rfl
      · exact h.counted.current t hold a ha context hsome
      · exact absurd ((hplain a ha).1.symm.trans (pumping_of_loopContext hsome)) (by simp)
    · rcases hmem t ht with hold | rfl
      · exact h.ordered t hold
      · exact ordered_of_unordered fun a ha => (hplain a ha).2
    · rw [hshared]
      rw [hthreads] at ht
      obtain hold | ⟨-, rfl⟩ := at_started ht
      · exact h.drained i t hold retain rest htodo
      · have hno := (hplain (.keyboardMouse (.detach retain)) (by
          show _ ∈ operation.start.todo
          rw [htodo]
          simp)).2
        simp [Act.unordered] at hno

theorem step {event : Event Choice Stimulus} (h : PumpLoop w) (hd : Disciplined w)
    (hstep : driver.step w event = some w') : PumpLoop w' := by
  cases event with
  | act i choice =>
      obtain ⟨s⟩ := System.actStep_of_step hstep
      exact h.act hd s
  | env stimulus => exact h.env hstep

theorem initial (keepalive : Bool) : PumpLoop (World.initial keepalive) := by
  refine ⟨counted_of_idle rfl rfl rfl, fun t ht => ?_, fun i t ht => ?_⟩
  · simp [World.initial] at ht
  · simp [World.initial] at ht

end PumpLoop

end LibVirtualGamepad
