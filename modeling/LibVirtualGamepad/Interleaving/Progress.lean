import LibVirtualGamepad.Interleaving.Run

-- How threads get on with what they have to do: what stands in front of an act, when all
-- of them are stuck, and why they do not go on for ever by themselves.
namespace LibVirtualGamepad.Interleaving

section

variable {S K R A C E : Type}

-- In front of the acts that `awaited` selects stand only acts that `clears` selects.
def Exposed (clears awaited : A → Bool) : List A → Prop
  | [] => True
  | a :: rest => (clears a = true ∨ ∀ b ∈ rest, awaited b = false) ∧ Exposed clears awaited rest

section Exposed

variable {clears awaited : A → Bool}

theorem exposed_of_none {todo : List A} (h : ∀ a ∈ todo, awaited a = false) :
    Exposed clears awaited todo := by
  induction todo with
  | nil => exact trivial
  | cons a rest ih =>
      have hrest : ∀ b ∈ rest, awaited b = false := fun b hb => h b (List.mem_cons_of_mem _ hb)
      exact ⟨.inr hrest, ih hrest⟩

theorem exposed_of_clears {todo : List A} (h : ∀ a ∈ todo, clears a = true) :
    Exposed clears awaited todo := by
  induction todo with
  | nil => exact trivial
  | cons a rest ih =>
      exact ⟨.inl (h a List.mem_cons_self), ih fun b hb => h b (List.mem_cons_of_mem _ hb)⟩

theorem Exposed.append {xs ys : List A} (hx : Exposed clears awaited xs)
    (hy : Exposed clears awaited ys)
    (h : (∀ a ∈ xs, clears a = true) ∨ ∀ b ∈ ys, awaited b = false) :
    Exposed clears awaited (xs ++ ys) := by
  induction xs with
  | nil => exact hy
  | cons a rest ih =>
      obtain ⟨hhead, htail⟩ := hx
      refine ⟨?_, ih htail ?_⟩
      · obtain hall | hnone := h
        · exact .inl (hall a List.mem_cons_self)
        · obtain hclears | hrest := hhead
          · exact .inl hclears
          · refine .inr fun b hb => ?_
            obtain hb | hb := List.mem_append.mp hb
            · exact hrest b hb
            · exact hnone b hb
      · obtain hall | hnone := h
        · exact .inl fun b hb => hall b (List.mem_cons_of_mem _ hb)
        · exact .inr hnone

-- What the thread does next, while an awaited act is still to come.
theorem Exposed.head {a b : A} {rest : List A} (h : Exposed clears awaited (a :: rest))
    (hb : b ∈ a :: rest) (hawaited : awaited b = true) : b = a ∨ clears a = true := by
  obtain rfl | hb := List.mem_cons.mp hb
  · exact .inl rfl
  · obtain hclears | hnone := h.1
    · exact .inr hclears
    · rw [hnone b hb] at hawaited
      cases hawaited

end Exposed

namespace System

variable {sys : System S K R A C E}

-- What an act has to do for the awaited acts to stay in front.
structure Exposes (sys : System S K R A C E) (clears awaited : A → Bool) : Prop where
  kept : ∀ threads d k regs c a o, sys.exec threads d k regs c a = some o → clears a = true →
    ∀ b ∈ o.next, clears b = true
  next : ∀ threads d k regs c a o, sys.exec threads d k regs c a = some o →
    Exposed clears awaited o.next
  spawn : ∀ threads d k regs c a o, sys.exec threads d k regs c a = some o →
    ∀ t ∈ o.spawn, Exposed clears awaited t.todo
  environment : ∀ threads d event out, sys.environment threads d event = some out →
    ∀ t ∈ out.2, Exposed clears awaited t.todo

theorem Exposes.step {clears awaited : A → Bool} (h : Exposes sys clears awaited)
    {w w' : World S K R A} {event : Event C E}
    (hw : ∀ t ∈ w.threads, Exposed clears awaited t.todo) (hstep : sys.step w event = some w') :
    ∀ t ∈ w'.threads, Exposed clears awaited t.todo := by
  intro t ht
  cases event with
  | act i c =>
      obtain ⟨s⟩ := actStep_of_step hstep
      obtain rfl | hold | hnew := s.mem_after t ht
      · have hbefore := hw s.thread s.mem
        rw [s.todo] at hbefore
        refine (h.next _ _ _ _ _ _ _ s.exec).append hbefore.2 ?_
        obtain hclears | hnone := hbefore.1
        · exact .inl (h.kept _ _ _ _ _ _ _ s.exec hclears)
        · exact .inr hnone
      · exact hw t hold
      · exact h.spawn _ _ _ _ _ _ _ s.exec t hnew
  | env event =>
      obtain ⟨out, hout, rfl⟩ := environment_of_step hstep
      obtain hold | hnew := List.mem_append.mp ht
      · exact hw t hold
      · exact h.environment _ _ _ _ hout t hnew

-- The threads keep to acts of a kind of their own.
structure Confines (sys : System S K R A C E) (fits : K → A → Prop) : Prop where
  next : ∀ threads d k regs c a o, sys.exec threads d k regs c a = some o → fits k a →
    ∀ b ∈ o.next, fits k b
  spawn : ∀ threads d k regs c a o, sys.exec threads d k regs c a = some o → ∀ t ∈ o.spawn,
    ∀ b ∈ t.todo, fits t.kind b
  environment : ∀ threads d event out, sys.environment threads d event = some out → ∀ t ∈ out.2,
    ∀ b ∈ t.todo, fits t.kind b

theorem Confines.step {fits : K → A → Prop} (h : Confines sys fits) {w w' : World S K R A}
    {event : Event C E} (hw : ∀ t ∈ w.threads, ∀ b ∈ t.todo, fits t.kind b)
    (hstep : sys.step w event = some w') : ∀ t ∈ w'.threads, ∀ b ∈ t.todo, fits t.kind b := by
  intro t ht b hb
  cases event with
  | act i c =>
      obtain ⟨s⟩ := actStep_of_step hstep
      obtain rfl | hold | hnew := s.mem_after t ht
      · have hbefore := hw s.thread s.mem
        rw [s.todo] at hbefore
        obtain hnext | hrest := List.mem_append.mp hb
        · exact h.next _ _ _ _ _ _ _ s.exec (hbefore s.act List.mem_cons_self) b hnext
        · exact hbefore b (List.mem_cons_of_mem _ hrest)
      · exact hw t hold b hb
      · exact h.spawn _ _ _ _ _ _ _ s.exec t hnew b hb
  | env event =>
      obtain ⟨out, hout, rfl⟩ := environment_of_step hstep
      obtain hold | hnew := List.mem_append.mp ht
      · exact hw t hold b hb
      · exact h.environment _ _ _ _ hout t hnew b hb

-- No thread can act, whatever of what is allowed comes from outside.
def Stuck (sys : System S K R A C E) (allowed : C → Prop) (w : World S K R A) : Prop :=
  ∀ i c, allowed c → sys.step w (.act i c) = none

theorem Stuck.exec {allowed : C → Prop} {w : World S K R A} (h : sys.Stuck allowed w) {i : Nat}
    {t : Thread K R A} {a : A} {rest : List A} (ht : w.threads[i]? = some t)
    (htodo : t.todo = a :: rest) {c : C} (hc : allowed c) :
    sys.exec w.threads w.shared t.kind t.regs c a = none := by
  have hnone := h i c hc
  simp only [step, ht, htodo, Option.map_eq_none_iff] at hnone
  exact hnone

end System

theorem exists_pending {p : K → A → Bool} {threads : List (Thread K R A)} (h : pending p threads ≠ 0) :
    ∃ t ∈ threads, ∃ a ∈ t.todo, p t.kind a = true := by
  by_contra hnone
  push Not at hnone
  exact h ((pending_eq_zero_iff p threads).mpr fun t ht a ha => Bool.eq_false_iff.mpr (hnone t ht a ha))

-- What is left to do, each act at its price.
def load (cost : A → Nat) (todo : List A) : Nat := (todo.map cost).sum

def loads (cost : A → Nat) (threads : List (Thread K R A)) : Nat :=
  (threads.map fun t => load cost t.todo).sum

section Load

variable {cost : A → Nat}

@[simp] theorem load_nil : load cost [] = 0 := rfl

@[simp] theorem load_cons (a : A) (rest : List A) : load cost (a :: rest) = cost a + load cost rest := by
  simp [load]

@[simp] theorem load_append (xs ys : List A) : load cost (xs ++ ys) = load cost xs + load cost ys := by
  simp [load]

theorem loads_append (xs ys : List (Thread K R A)) :
    loads cost (xs ++ ys) = loads cost xs + loads cost ys := by
  simp [loads]

theorem loads_set (threads : List (Thread K R A)) (i : Nat) (t u : Thread K R A)
    (h : threads[i]? = some t) :
    loads cost (threads.set i u) + load cost t.todo = loads cost threads + load cost u.todo := by
  induction threads generalizing i with
  | nil => simp at h
  | cons x xs ih =>
      cases i with
      | zero =>
          obtain rfl : x = t := by simpa using h
          simp only [List.set_cons_zero, loads, List.map_cons, List.sum_cons]
          omega
      | succ i =>
          have hi := ih i (by simpa using h)
          simp only [loads] at hi
          simp only [List.set_cons_succ, loads, List.map_cons, List.sum_cons]
          omega

theorem load_flatMap_le {B : Type} {f : B → List A} {xs : List B} {n : Nat}
    (h : ∀ x ∈ xs, load cost (f x) ≤ n) : load cost (xs.flatMap f) ≤ xs.length * n := by
  induction xs with
  | nil => simp
  | cons x rest ih =>
      have hx := h x List.mem_cons_self
      have hrest := ih fun y hy => h y (List.mem_cons_of_mem _ hy)
      rw [List.flatMap_cons, load_append, List.length_cons, Nat.succ_mul]
      omega

end Load

namespace System

variable {sys : System S K R A C E} {cost : A → Nat} {fuel : S → Nat}

-- Every act costs more than what it leads to; `fuel` is what the state still pays for.
def Spends (sys : System S K R A C E) (cost : A → Nat) (fuel : S → Nat) : Prop :=
  ∀ threads d k regs c a o, sys.exec threads d k regs c a = some o →
    fuel o.shared + load cost o.next + loads cost o.spawn < fuel d + cost a

def budget (cost : A → Nat) (fuel : S → Nat) (w : World S K R A) : Nat :=
  fuel w.shared + loads cost w.threads

theorem Spends.step (h : Spends sys cost fuel) {w w' : World S K R A} {i : Nat} {c : C}
    (hstep : sys.step w (.act i c) = some w') : budget cost fuel w' < budget cost fuel w := by
  obtain ⟨s⟩ := actStep_of_step hstep
  have hset := @loads_set K R A cost w.threads i s.thread (s.outcome.thread s.thread s.rest)
    s.at_index
  have hpaid := h _ _ _ _ _ _ _ s.exec
  have hafter : load cost (s.outcome.thread s.thread s.rest).todo =
      load cost s.outcome.next + load cost s.rest := load_append _ _
  rw [s.todo, load_cons, hafter] at hset
  simp only [budget, s.shared_after, s.threads_after, loads_append]
  omega

-- By themselves the threads act no more often than the budget allows.
theorem Spends.acts_le (h : Spends sys cost fuel) {w w' : World S K R A}
    {events : List (Event C E)} (hacts : ∀ event ∈ events, ∃ i c, event = .act i c)
    (hruns : sys.runAll w events = some w') : events.length + budget cost fuel w' ≤ budget cost fuel w := by
  induction events generalizing w with
  | nil =>
      obtain rfl := Option.some.inj hruns
      simp
  | cons event rest ih =>
      obtain ⟨i, c, rfl⟩ := hacts event List.mem_cons_self
      simp only [runAll, Option.bind_eq_some_iff] at hruns
      obtain ⟨w₁, hstep, hrest⟩ := hruns
      have hlater := ih (fun e he => hacts e (List.mem_cons_of_mem _ he)) hrest
      have hfirst := h.step hstep
      simp only [List.length_cons]
      omega

-- However they go on, they come to a world in which all are stuck.
theorem Spends.reaches_stuck (h : Spends sys cost fuel) (allowed : C → Prop) (w : World S K R A) :
    ∃ events, (∀ event ∈ events, ∃ i c, allowed c ∧ event = .act i c) ∧
      ∃ w', sys.runAll w events = some w' ∧ sys.Stuck allowed w' := by
  induction hn : budget cost fuel w using Nat.strong_induction_on generalizing w with
  | _ n ih =>
      by_cases hstuck : sys.Stuck allowed w
      · exact ⟨[], by simp, w, rfl, hstuck⟩
      · simp only [Stuck, not_forall] at hstuck
        obtain ⟨i, c, hc, hstep⟩ := hstuck
        obtain ⟨w₁, hstep⟩ := Option.ne_none_iff_exists'.mp hstep
        have hless := h.step hstep
        obtain ⟨events, hacts, w', hruns, hend⟩ := ih _ (hn ▸ hless) w₁ rfl
        refine ⟨.act i c :: events, ?_, w', by simp [runAll, hstep, hruns], hend⟩
        intro event hevent
        obtain rfl | hevent := List.mem_cons.mp hevent
        · exact ⟨i, c, hc, rfl⟩
        · exact hacts event hevent

section Passed

variable {w₀ : World S K R A} {run : sys.Run w₀} {i : Nat} {t u : Thread K R A}

-- What holds at a position and is kept by every event up to another holds there.
theorem Run.induct_between {P : Nat → Prop} {m n : Nat} (hmn : m ≤ n) (hn : n ≤ run.length)
    (hm : P m)
    (hstep : ∀ l event, m ≤ l → l < n → run.events[l]? = some event → P l → P (l + 1)) : P n := by
  induction n, hmn using Nat.le_induction with
  | base => exact hm
  | succ n hmn ih =>
      have hlt : n < run.events.length := hn
      have hbefore := ih (Nat.le_of_lt hn) fun l event hl hln =>
        hstep l event hl (Nat.lt_succ_of_lt hln)
      exact hstep n _ hmn (Nat.lt_succ_self n) (List.getElem?_eq_getElem hlt) hbefore

-- A thread does its next act, or it is as it was.
theorem Run.thread_succ {n : Nat} {event : Event C E} (h : run.events[n]? = some event)
    (ht : (run.world n).threads[i]? = some t) :
    (run.world (n + 1)).threads[i]? = some t ∨
      ∃ choice, ∃ s : ActStep sys (run.world n) i choice (run.world (n + 1)),
        s.thread = t ∧ event = .act i choice := by
  have hlt := (List.getElem?_eq_some_iff.mp ht).1
  have hstep := run.step_at h
  cases event with
  | act j choice =>
      obtain ⟨s⟩ := actStep_of_step hstep
      by_cases hj : i = j
      · subst hj
        exact .inr ⟨choice, s, Option.some.inj (s.at_index.symm.trans ht), rfl⟩
      · exact .inl ((s.at_other i hj hlt).trans ht)
  | env event =>
      obtain ⟨out, -, hout⟩ := environment_of_step hstep
      rw [hout]
      exact .inl ((List.getElem?_append_left hlt).trans ht)

-- What a thread had before it and has behind it has been done in between.
theorem Run.exists_performs {m n : Nat} {before rest : List A} {a : A} (hmn : m ≤ n)
    (hn : n ≤ run.length) (ht : (run.world m).threads[i]? = some t)
    (htodo : t.todo = before ++ a :: rest) (hu : (run.world n).threads[i]? = some u)
    (hlen : u.todo.length ≤ rest.length) :
    ∃ l choice next v, m ≤ l ∧ l < n ∧ run.Performs l i choice a ∧
      (run.world (l + 1)).threads[i]? = some v ∧ v.todo = next ++ rest := by
  induction hd : n - m generalizing m t before with
  | zero =>
      obtain rfl : m = n := by omega
      obtain rfl := Option.some.inj (hu.symm.trans ht)
      rw [htodo] at hlen
      simp only [List.length_append, List.length_cons] at hlen
      omega
  | succ d ih =>
      have hlt : m < run.events.length := by
        have hlength : n ≤ run.events.length := hn
        omega
      have hevent := List.getElem?_eq_getElem hlt
      obtain hsame | ⟨choice, s, hs, hact⟩ := run.thread_succ hevent ht
      · obtain ⟨l, choice, next, v, hl, hrest⟩ := ih (by omega) hsame htodo (by omega)
        exact ⟨l, choice, next, v, by omega, hrest⟩
      · have hfront : s.act :: s.rest = before ++ a :: rest := by rw [← s.todo, hs, htodo]
        have hafter := s.at_index_after
        cases before with
        | nil =>
            obtain ⟨hhead, htail⟩ := List.cons_eq_cons.mp hfront
            rw [hact] at hevent
            have hperforms := run.performs_of_step hevent s
            rw [hhead] at hperforms
            refine ⟨m, choice, s.outcome.next, _, Nat.le_refl m, by omega, hperforms, hafter, ?_⟩
            rw [← htail]
            rfl
        | cons b more =>
            obtain ⟨-, htail⟩ : s.act = b ∧ s.rest = more ++ a :: rest := List.cons_eq_cons.mp hfront
            have htodo' : (s.outcome.thread s.thread s.rest).todo =
                (s.outcome.next ++ more) ++ a :: rest := by
              rw [List.append_assoc, ← htail]
              rfl
            obtain ⟨l, choice, next, v, hl, hrest⟩ := ih (by omega) hafter htodo' (by omega)
            exact ⟨l, choice, next, v, by omega, hrest⟩

end Passed

end System

end

end LibVirtualGamepad.Interleaving
