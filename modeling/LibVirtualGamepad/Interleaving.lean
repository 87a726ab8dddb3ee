import Mathlib.Algebra.Order.Ring.Int
import Mathlib.Data.Int.Bitwise
import Mathlib.Tactic.Common

-- Threads over one shared state, interleaved at the grain of atomic acts. A thread
-- is a list of acts to do; an act may put further acts in front of the list.
namespace LibVirtualGamepad.Interleaving

structure Thread (K R A : Type) where
  kind : K
  regs : R
  todo : List A

structure World (S K R A : Type) where
  shared : S
  threads : List (Thread K R A)

structure Outcome (S K R A : Type) where
  shared : S
  regs : R
  next : List A
  spawn : List (Thread K R A)

-- `exec` is one act of a thread, none while it has to wait; `environment` is what
-- happens from outside, with the threads it starts. Threads that are done stay in
-- the list with nothing to do.
structure System (S K R A C E : Type) where
  exec : List (Thread K R A) → S → K → R → C → A → Option (Outcome S K R A)
  environment : List (Thread K R A) → S → E → Option (S × List (Thread K R A))

inductive Event (C E : Type) where
  | act (thread : Nat) (choice : C)
  | env (event : E)

section

variable {S K R A C E : Type}

def Outcome.thread (o : Outcome S K R A) (t : Thread K R A) (rest : List A) : Thread K R A where
  kind := t.kind
  regs := o.regs
  todo := o.next ++ rest

namespace System

variable (sys : System S K R A C E)

def step (w : World S K R A) : Event C E → Option (World S K R A)
  | .act i choice =>
    match w.threads[i]? with
    | some t =>
      match t.todo with
      | a :: rest =>
        (sys.exec w.threads w.shared t.kind t.regs choice a).map fun o =>
          { shared := o.shared, threads := w.threads.set i (o.thread t rest) ++ o.spawn }
      | [] => none
    | none => none
  | .env event =>
    (sys.environment w.threads w.shared event).map fun out =>
      { shared := out.1, threads := w.threads ++ out.2 }

-- Runs whose every step is allowed where it is taken.
inductive ReachesBy (allowed : World S K R A → Event C E → Prop) :
    World S K R A → World S K R A → Prop where
  | refl (w : World S K R A) : ReachesBy allowed w w
  | step {w w' w'' : World S K R A} (event : Event C E) (before : ReachesBy allowed w w')
      (fair : allowed w' event) (hstep : sys.step w' event = some w'') : ReachesBy allowed w w''

def Reaches (w w' : World S K R A) : Prop := sys.ReachesBy (fun _ _ => True) w w'

variable {sys}

theorem ReachesBy.trans {allowed : World S K R A → Event C E → Prop} {w w' w'' : World S K R A}
    (h : sys.ReachesBy allowed w w') (h' : sys.ReachesBy allowed w' w'') :
    sys.ReachesBy allowed w w'' := by
  induction h' with
  | refl => exact h
  | step event _ hallowed hstep ih => exact .step event ih hallowed hstep

-- What holds at the start and is kept by every step holds of all that is reached.
theorem ReachesBy.invariant {allowed : World S K R A → Event C E → Prop}
    {P : World S K R A → Prop} {w w' : World S K R A} (h : sys.ReachesBy allowed w w')
    (hstep : ∀ w event w', P w → allowed w event → sys.step w event = some w' → P w')
    (hw : P w) : P w' := by
  induction h with
  | refl => exact hw
  | step event _ hallowed hs ih => exact hstep _ event _ ih hallowed hs

theorem Reaches.invariant {P : World S K R A → Prop} {w w' : World S K R A}
    (h : sys.Reaches w w')
    (hstep : ∀ w event w', P w → sys.step w event = some w' → P w') (hw : P w) : P w' :=
  ReachesBy.invariant h (fun w event w' hP _ hs => hstep w event w' hP hs) hw

-- One act: the thread it belongs to and what is left of it.
structure ActStep (sys : System S K R A C E) (w : World S K R A) (i : Nat) (choice : C)
    (w' : World S K R A) where
  thread : Thread K R A
  act : A
  rest : List A
  outcome : Outcome S K R A
  at_index : w.threads[i]? = some thread
  todo : thread.todo = act :: rest
  exec : sys.exec w.threads w.shared thread.kind thread.regs choice act = some outcome
  result : w' = { shared := outcome.shared
                  threads := w.threads.set i (outcome.thread thread rest) ++ outcome.spawn }

theorem actStep_of_step {w w' : World S K R A} {i : Nat} {choice : C}
    (h : sys.step w (.act i choice) = some w') : Nonempty (ActStep sys w i choice w') := by
  simp only [step] at h
  cases ht : w.threads[i]? with
  | none => simp [ht] at h
  | some t =>
      cases htodo : t.todo with
      | nil => simp [ht, htodo] at h
      | cons a rest =>
          simp only [ht, htodo, Option.map_eq_some_iff] at h
          obtain ⟨o, hexec, rfl⟩ := h
          exact ⟨⟨t, a, rest, o, ht, htodo, hexec, rfl⟩⟩

theorem environment_of_step {w w' : World S K R A} {event : E}
    (h : sys.step w (.env event) = some w') :
    ∃ out, sys.environment w.threads w.shared event = some out ∧
      w' = { shared := out.1, threads := w.threads ++ out.2 } := by
  simp only [step, Option.map_eq_some_iff] at h
  obtain ⟨out, hout, rfl⟩ := h
  exact ⟨out, hout, rfl⟩

namespace ActStep

variable {w w' : World S K R A} {i : Nat} {choice : C}

theorem lt_length (s : ActStep sys w i choice w') : i < w.threads.length :=
  (List.getElem?_eq_some_iff.mp s.at_index).1

theorem mem (s : ActStep sys w i choice w') : s.thread ∈ w.threads :=
  List.mem_of_getElem? s.at_index

theorem shared_after (s : ActStep sys w i choice w') : w'.shared = s.outcome.shared :=
  congrArg World.shared s.result

theorem threads_after (s : ActStep sys w i choice w') :
    w'.threads = w.threads.set i (s.outcome.thread s.thread s.rest) ++ s.outcome.spawn :=
  congrArg World.threads s.result

theorem at_index_after (s : ActStep sys w i choice w') :
    w'.threads[i]? = some (s.outcome.thread s.thread s.rest) := by
  have hi := s.lt_length
  rw [s.threads_after, List.getElem?_append_left (by simpa using hi)]
  simp [hi]

theorem at_other (s : ActStep sys w i choice w') (j : Nat) (hj : j ≠ i)
    (hlt : j < w.threads.length) : w'.threads[j]? = w.threads[j]? := by
  rw [s.threads_after, List.getElem?_append_left (by simpa using hlt)]
  exact List.getElem?_set_ne (Ne.symm hj)

-- A thread of the next world is the one that acted, one that did not, or a new one.
theorem cases_after (s : ActStep sys w i choice w') (j : Nat) (u : Thread K R A)
    (h : w'.threads[j]? = some u) :
    (j = i ∧ u = s.outcome.thread s.thread s.rest) ∨
      (j ≠ i ∧ w.threads[j]? = some u) ∨
      (w.threads.length ≤ j ∧ u ∈ s.outcome.spawn) := by
  by_cases hlt : j < w.threads.length
  · by_cases hj : j = i
    · subst hj
      rw [s.at_index_after] at h
      exact .inl ⟨rfl, (Option.some.inj h).symm⟩
    · rw [s.at_other j hj hlt] at h
      exact .inr (.inl ⟨hj, h⟩)
  · have hle : w.threads.length ≤ j := by omega
    rw [s.threads_after] at h
    have hlen : (w.threads.set i (s.outcome.thread s.thread s.rest)).length ≤ j := by
      rw [List.length_set]
      exact hle
    rw [List.getElem?_append_right hlen] at h
    exact .inr (.inr ⟨hle, List.mem_of_getElem? h⟩)

theorem mem_after (s : ActStep sys w i choice w') (u : Thread K R A) (h : u ∈ w'.threads) :
    u = s.outcome.thread s.thread s.rest ∨ u ∈ w.threads ∨ u ∈ s.outcome.spawn := by
  obtain ⟨j, hj⟩ := List.mem_iff_getElem?.mp h
  rcases s.cases_after j u hj with ⟨_, hu⟩ | ⟨_, hu⟩ | ⟨_, hu⟩
  · exact .inl hu
  · exact .inr (.inl (List.mem_of_getElem? hu))
  · exact .inr (.inr hu)

-- What comes first in a thread of the next world: the act's own rest, what the act put
-- in front of it, or what was first before.
theorem head_after (s : ActStep sys w i choice w') {j : Nat} {u : Thread K R A} {b : A} {rest : List A}
    (hu : w'.threads[j]? = some u) (htodo : u.todo = b :: rest) :
    (j = i ∧ u.kind = s.thread.kind ∧ s.outcome.next = [] ∧ s.rest = b :: rest) ∨
      (j = i ∧ u.kind = s.thread.kind ∧ s.outcome.next.head? = some b) ∨
        (j ≠ i ∧ w.threads[j]? = some u) ∨ u ∈ s.outcome.spawn := by
  rcases s.cases_after j u hu with ⟨hj, rfl⟩ | ⟨hj, hold⟩ | ⟨-, hnew⟩
  · have hfront : s.outcome.next ++ s.rest = b :: rest := htodo
    cases hnext : s.outcome.next with
    | nil =>
        rw [hnext] at hfront
        exact .inl ⟨hj, rfl, rfl, hfront⟩
    | cons c more =>
        rw [hnext] at hfront
        obtain ⟨rfl, -⟩ := List.cons_eq_cons.mp hfront
        exact .inr (.inl ⟨hj, rfl, rfl⟩)
  · exact .inr (.inr (.inl ⟨hj, hold⟩))
  · exact .inr (.inr (.inr hnew))

-- An act that is to be done after an act was to be done before, or was put there by it.
theorem todo_after (s : ActStep sys w i choice w') {u : Thread K R A} {b : A}
    (hu : u ∈ w'.threads) (hb : b ∈ u.todo) :
    b ∈ s.outcome.next ∨ (∃ t ∈ w.threads, b ∈ t.todo) ∨ ∃ t ∈ s.outcome.spawn, b ∈ t.todo := by
  rcases s.mem_after u hu with rfl | hold | hnew
  · rcases List.mem_append.mp hb with hnext | hrest
    · exact .inl hnext
    · refine .inr (.inl ⟨s.thread, s.mem, ?_⟩)
      rw [s.todo]
      exact List.mem_cons_of_mem _ hrest
  · exact .inr (.inl ⟨u, hold, hb⟩)
  · exact .inr (.inr ⟨u, hnew, hb⟩)

-- An act that was to be done is the one that was done, or is still to be done.
theorem todo_before (s : ActStep sys w i choice w') {t : Thread K R A} {b : A} (ht : t ∈ w.threads)
    (hb : b ∈ t.todo) : b = s.act ∨ ∃ u ∈ w'.threads, u.kind = t.kind ∧ b ∈ u.todo := by
  obtain ⟨j, hj⟩ := List.mem_iff_getElem?.mp ht
  by_cases hji : j = i
  · subst hji
    obtain rfl : t = s.thread := Option.some.inj (hj.symm.trans s.at_index)
    rw [s.todo] at hb
    rcases List.mem_cons.mp hb with rfl | hb
    · exact .inl rfl
    · exact .inr ⟨_, List.mem_of_getElem? s.at_index_after, rfl, List.mem_append_right _ hb⟩
  · have hlt := (List.getElem?_eq_some_iff.mp hj).1
    have hafter := s.at_other j hji hlt
    exact .inr ⟨t, List.mem_of_getElem? (hafter.trans hj), rfl, hb⟩

end ActStep

end System

-- The acts of a kind that are still to be done, over all threads.
def pending (p : K → A → Bool) (threads : List (Thread K R A)) : Nat :=
  (threads.map fun t => t.todo.countP (p t.kind)).sum

theorem pending_append (p : K → A → Bool) (xs ys : List (Thread K R A)) :
    pending p (xs ++ ys) = pending p xs + pending p ys := by
  simp [pending]

theorem pending_set (p : K → A → Bool) (threads : List (Thread K R A)) (i : Nat)
    (t u : Thread K R A) (h : threads[i]? = some t) :
    pending p (threads.set i u) + t.todo.countP (p t.kind) =
      pending p threads + u.todo.countP (p u.kind) := by
  induction threads generalizing i with
  | nil => simp at h
  | cons x xs ih =>
      cases i with
      | zero =>
          have hx : x = t := by simpa using h
          subst hx
          simp only [List.set_cons_zero, pending, List.map_cons, List.sum_cons]
          omega
      | succ i =>
          have hi := ih i (by simpa using h)
          simp only [pending] at hi
          simp only [List.set_cons_succ, pending, List.map_cons, List.sum_cons]
          omega

-- An act takes itself away from what is pending and adds what it leads to.
theorem System.ActStep.pending_eq {sys : System S K R A C E} {w w' : World S K R A} {i : Nat}
    {choice : C} (s : System.ActStep sys w i choice w') (p : K → A → Bool) :
    pending p w'.threads + (if p s.thread.kind s.act then 1 else 0) =
      pending p w.threads + s.outcome.next.countP (p s.thread.kind) + pending p s.outcome.spawn := by
  have hset := pending_set p w.threads i s.thread (s.outcome.thread s.thread s.rest) s.at_index
  have htodo := s.todo
  rw [s.threads_after, pending_append]
  simp only [htodo, List.countP_cons, Outcome.thread, List.countP_append] at hset ⊢
  omega

theorem pending_eq_zero_iff (p : K → A → Bool) (threads : List (Thread K R A)) :
    pending p threads = 0 ↔ ∀ t ∈ threads, ∀ a ∈ t.todo, p t.kind a = false := by
  induction threads with
  | nil => simp [pending]
  | cons t rest ih =>
      simp only [pending] at ih
      simp only [pending, List.map_cons, List.sum_cons, Nat.add_eq_zero_iff, List.mem_cons,
        forall_eq_or_imp, ih, List.countP_eq_zero, Bool.not_eq_true]

theorem pending_pos {p : K → A → Bool} {threads : List (Thread K R A)} {t : Thread K R A} {a : A}
    (ht : t ∈ threads) (ha : a ∈ t.todo) (hp : p t.kind a = true) : 0 < pending p threads := by
  refine Nat.pos_of_ne_zero fun hzero => ?_
  rw [(pending_eq_zero_iff p threads).mp hzero t ht a ha] at hp
  simp at hp

theorem pending_mono {p q : K → A → Bool} (h : ∀ k a, p k a = true → q k a = true)
    (threads : List (Thread K R A)) : pending p threads ≤ pending q threads := by
  induction threads with
  | nil => exact Nat.le_refl 0
  | cons t rest ih =>
      simp only [pending] at ih
      have hcount := List.countP_mono_left (l := t.todo) fun a _ => h t.kind a
      simp only [pending, List.map_cons, List.sum_cons]
      omega

-- An act is waiting somewhere.
def Waiting (threads : List (Thread K R A)) (p : K → A → Prop) : Prop :=
  ∃ t ∈ threads, ∃ a ∈ t.todo, p t.kind a

theorem Waiting.mono {threads : List (Thread K R A)} {p q : K → A → Prop}
    (h : Waiting threads p) (himp : ∀ k a, p k a → q k a) : Waiting threads q := by
  obtain ⟨t, ht, a, ha, hp⟩ := h
  exact ⟨t, ht, a, ha, himp _ _ hp⟩

theorem Waiting.append_left {threads : List (Thread K R A)} {p : K → A → Prop}
    (h : Waiting threads p) (more : List (Thread K R A)) : Waiting (threads ++ more) p := by
  obtain ⟨t, ht, hrest⟩ := h
  exact ⟨t, List.mem_append_left _ ht, hrest⟩

-- What waits after an act waited before or was put there by the act.
theorem System.ActStep.waiting_after {sys : System S K R A C E} {w w' : World S K R A} {i : Nat}
    {choice : C} (s : System.ActStep sys w i choice w') (p : K → A → Prop)
    (h : Waiting w'.threads p) :
    Waiting w.threads p ∨ (∃ a ∈ s.outcome.next, p s.thread.kind a) ∨
      Waiting s.outcome.spawn p := by
  obtain ⟨t, ht, a, ha, hp⟩ := h
  rcases s.mem_after t ht with rfl | hold | hnew
  · rcases List.mem_append.mp ha with hnext | hrest
    · exact .inr (.inl ⟨a, hnext, hp⟩)
    · have htodo : a ∈ s.thread.todo := by
        rw [s.todo]
        exact List.mem_cons_of_mem _ hrest
      exact .inl ⟨s.thread, s.mem, a, htodo, hp⟩
  · exact .inl ⟨t, hold, a, ha, hp⟩
  · exact .inr (.inr ⟨t, hnew, a, ha, hp⟩)

-- What an act puts in front of its thread waits there.
theorem System.ActStep.waiting_next {sys : System S K R A C E} {w w' : World S K R A} {i : Nat}
    {choice : C} (s : System.ActStep sys w i choice w') {p : K → A → Prop} {b : A}
    (hb : b ∈ s.outcome.next) (hp : p s.thread.kind b) : Waiting w'.threads p :=
  ⟨_, List.mem_of_getElem? s.at_index_after, b, List.mem_append_left _ hb, hp⟩

-- What waited before is the act itself or still waits.
theorem System.ActStep.waiting_before {sys : System S K R A C E} {w w' : World S K R A} {i : Nat}
    {choice : C} (s : System.ActStep sys w i choice w') {p : K → A → Prop}
    (h : Waiting w.threads p) : (∃ k, p k s.act) ∨ Waiting w'.threads p := by
  obtain ⟨t, ht, a, ha, hp⟩ := h
  obtain rfl | ⟨u, hu, hkind, hau⟩ := s.todo_before ht ha
  · exact .inl ⟨_, hp⟩
  · exact .inr ⟨u, hu, a, hau, hkind ▸ hp⟩

end

-- One lock. The thread that holds it is in a mode, the others are in none; `spec`
-- tells from which mode to which an act goes with all that it leads to.
section Lock

variable {S K R A C E M : Type}

-- The acts, one after the other, lead from a mode to a mode.
def Chain (spec : A → Option M → Option M → Prop) : List A → Option M → Option M → Prop
  | [], m, m' => m = m'
  | a :: rest, m, m' => ∃ m₁, spec a m m₁ ∧ Chain spec rest m₁ m'

theorem Chain.append {spec : A → Option M → Option M → Prop} {xs ys : List A}
    {m m₁ m' : Option M} (hx : Chain spec xs m m₁) (hy : Chain spec ys m₁ m') :
    Chain spec (xs ++ ys) m m' := by
  induction xs generalizing m with
  | nil =>
      have hm : m = m₁ := hx
      exact hm ▸ hy
  | cons a rest ih =>
      obtain ⟨m₂, ha, hrest⟩ := hx
      exact ⟨m₂, ha, ih hrest⟩

theorem Chain.single {spec : A → Option M → Option M → Prop} {a : A} {m m' : Option M}
    (h : spec a m m') : Chain spec [a] m m' :=
  ⟨m', h, rfl⟩

-- The mode of a thread, given who holds the lock and in which mode.
def modeOf : Option (Nat × M) → Nat → Option M
  | none, _ => none
  | some (holder, m), i => if i = holder then some m else none

def holderMode (holder : Option (Nat × M)) : Option M := holder.map Prod.snd

theorem modeOf_eq_none_or (holder : Option (Nat × M)) (i : Nat) :
    modeOf holder i = none ∨ modeOf holder i = holderMode holder := by
  cases holder with
  | none => exact .inl rfl
  | some pair =>
      by_cases h : i = pair.1
      · exact .inr (by simp [modeOf, holderMode, h])
      · exact .inl (by simp [modeOf, h])

theorem holder_of_modeOf {holder : Option (Nat × M)} {i : Nat} {m : M}
    (h : modeOf holder i = some m) : holder = some (i, m) := by
  cases holder with
  | none => simp [modeOf] at h
  | some pair =>
      obtain ⟨k, x⟩ := pair
      by_cases hk : i = k
      · simp only [modeOf, hk, if_true, Option.some.injEq] at h
        rw [hk, h]
      · simp [modeOf, hk] at h

def holding (i : Nat) (m : Option M) : Option (Nat × M) := m.map (i, ·)

@[simp] theorem modeOf_holding (i : Nat) (m : Option M) : modeOf (holding i m) i = m := by
  cases m <;> simp [holding, modeOf]

@[simp] theorem holderMode_holding (i : Nat) (m : Option M) : holderMode (holding i m) = m := by
  cases m <;> simp [holding, holderMode]

theorem modeOf_holding_ne {i j : Nat} (h : j ≠ i) (m : Option M) :
    modeOf (holding i m) j = none := by
  cases m <;> simp [holding, modeOf, h]

variable (spec : K → A → Option M → Option M → Prop)
  (ok : Option M → World S K R A → Prop)

-- Every thread's acts end without the lock, and the world is as the holder's mode
-- says.
structure LockedBy (w : World S K R A) (holder : Option (Nat × M)) : Prop where
  shared : ok (holderMode holder) w
  holder_lt : ∀ pair, holder = some pair → pair.1 < w.threads.length
  chains : ∀ i t, w.threads[i]? = some t → Chain (spec t.kind) t.todo (modeOf holder i) none

def Locked (w : World S K R A) : Prop := ∃ holder, LockedBy spec ok w holder

-- What has to be shown of an act. A thread that holds the lock goes on in the mode
-- `after`; one that does not stays outside or takes the lock, which was free then.
structure Kept {sys : System S K R A C E} {w w' : World S K R A} {i : Nat} {choice : C}
    (s : System.ActStep sys w i choice w') (held m m₁ : Option M) (after : Option M) : Prop where
  chain : Chain (spec s.thread.kind) s.outcome.next after m₁
  spawn : ∀ t ∈ s.outcome.spawn, Chain (spec t.kind) t.todo none none
  shared : (after = none ∧ m = none ∧ ok held w') ∨ ((m.isSome ∨ held = none) ∧ ok after w')

variable {spec ok}

theorem LockedBy.modeOf_new {w : World S K R A} {holder : Option (Nat × M)}
    (h : LockedBy spec ok w holder) {j : Nat} (hj : w.threads.length ≤ j) :
    modeOf holder j = none := by
  cases hholder : holder with
  | none => rfl
  | some pair =>
      have hlt := h.holder_lt pair hholder
      have hne : j ≠ pair.1 := by omega
      simp [modeOf, hne]

-- The threads after an act, for a holder that gives the acting thread its new mode
-- and leaves the others theirs.
theorem LockedBy.chains_after {sys : System S K R A C E} {w w' : World S K R A} {i : Nat}
    {choice : C} {holder holder' : Option (Nat × M)} (h : LockedBy spec ok w holder)
    (s : System.ActStep sys w i choice w') {m₁ after : Option M}
    (hrest : Chain (spec s.thread.kind) s.rest m₁ none)
    (hchain : Chain (spec s.thread.kind) s.outcome.next after m₁)
    (hspawn : ∀ t ∈ s.outcome.spawn, Chain (spec t.kind) t.todo none none)
    (hi : modeOf holder' i = after) (hothers : ∀ j, j ≠ i → modeOf holder' j = modeOf holder j) :
    ∀ j t, w'.threads[j]? = some t → Chain (spec t.kind) t.todo (modeOf holder' j) none := by
  intro j t ht
  rcases s.cases_after j t ht with ⟨rfl, rfl⟩ | ⟨hj, hold⟩ | ⟨hj, hnew⟩
  · rw [hi]
    exact hchain.append hrest
  · rw [hothers j hj]
    exact h.chains j t hold
  · have hne : j ≠ i := by
      have := s.lt_length
      omega
    rw [hothers j hne, h.modeOf_new hj]
    exact hspawn t hnew

theorem Locked.act {sys : System S K R A C E} {w w' : World S K R A} {i : Nat} {choice : C}
    (h : Locked spec ok w) (hstep : sys.step w (.act i choice) = some w')
    (hkept : ∀ (s : System.ActStep sys w i choice w') (held m m₁ : Option M),
      (m = none ∨ m = held) → ok held w → spec s.thread.kind s.act m m₁ →
        ∃ after, Kept spec ok s held m m₁ after) :
    Locked spec ok w' := by
  obtain ⟨holder, h⟩ := h
  obtain ⟨s⟩ := System.actStep_of_step hstep
  have hown := h.chains i s.thread s.at_index
  rw [s.todo] at hown
  obtain ⟨m₁, hspec, hrest⟩ := hown
  obtain ⟨after, kept⟩ := hkept s (holderMode holder) (modeOf holder i) m₁
    (modeOf_eq_none_or holder i) h.shared hspec
  have hlen : w.threads.length ≤ w'.threads.length := by
    rw [s.threads_after, List.length_append, List.length_set]
    omega
  rcases kept.shared with ⟨hafter, hm, hok⟩ | ⟨hfree, hok⟩
  · refine ⟨holder, hok, fun pair hpair => ?_, ?_⟩
    · have := h.holder_lt pair hpair
      omega
    · exact h.chains_after s hrest kept.chain kept.spawn (hm.trans hafter.symm) fun j _ => rfl
  · -- Nobody else has the lock.
    have hothers : ∀ j, j ≠ i → modeOf holder j = none := by
      intro j hj
      rcases hfree with hm | hheld
      · obtain ⟨x, hx⟩ := Option.isSome_iff_exists.mp hm
        rw [holder_of_modeOf hx]
        simp [modeOf, hj]
      · cases holder with
        | none => rfl
        | some pair => simp [holderMode] at hheld
    refine ⟨holding i after, by simpa using hok, fun pair hpair => ?_, ?_⟩
    · have hi := s.lt_length
      have hfst : pair.1 = i := by
        cases after with
        | none => simp [holding] at hpair
        | some m =>
            have hpair' : (i, m) = pair := by simpa [holding] using hpair
            rw [← hpair']
      omega
    · refine h.chains_after s hrest kept.chain kept.spawn (modeOf_holding i after) fun j hj => ?_
      rw [modeOf_holding_ne hj, hothers j hj]

-- New threads start outside the lock.
theorem Locked.environment {sys : System S K R A C E} {w w' : World S K R A} {event : E}
    (h : Locked spec ok w) (hstep : sys.step w (.env event) = some w')
    (hkept : ∀ out held, sys.environment w.threads w.shared event = some out → ok held w →
      (∀ t ∈ out.2, Chain (spec t.kind) t.todo none none) ∧
        ok held { shared := out.1, threads := w.threads ++ out.2 }) :
    Locked spec ok w' := by
  obtain ⟨holder, h⟩ := h
  obtain ⟨out, hout, rfl⟩ := System.environment_of_step hstep
  obtain ⟨hspawn, hok⟩ := hkept out (holderMode holder) hout h.shared
  refine ⟨holder, hok, fun pair hpair => ?_, fun j t ht => ?_⟩
  · have := h.holder_lt pair hpair
    simp only [List.length_append]
    omega
  · by_cases hj : j < w.threads.length
    · rw [List.getElem?_append_left hj] at ht
      exact h.chains j t ht
    · have hge : w.threads.length ≤ j := by omega
      rw [List.getElem?_append_right hge] at ht
      rw [h.modeOf_new hge]
      exact hspawn t (List.mem_of_getElem? ht)

end Lock

end LibVirtualGamepad.Interleaving
