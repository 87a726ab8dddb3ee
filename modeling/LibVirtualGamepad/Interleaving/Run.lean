import LibVirtualGamepad.Interleaving

-- A run written down: its events and the worlds between them.
namespace LibVirtualGamepad.Interleaving

section

variable {S K R A C E : Type}

namespace System

variable (sys : System S K R A C E)

def runAll (w : World S K R A) : List (Event C E) → Option (World S K R A)
  | [] => some w
  | event :: rest => (sys.step w event).bind (runAll · rest)

structure Run (w : World S K R A) where
  events : List (Event C E)
  runs : (sys.runAll w events).isSome

variable {sys}

theorem runAll_append (w : World S K R A) (xs ys : List (Event C E)) :
    sys.runAll w (xs ++ ys) = (sys.runAll w xs).bind (sys.runAll · ys) := by
  induction xs generalizing w with
  | nil => rfl
  | cons event rest ih =>
      simp only [List.cons_append, runAll]
      cases sys.step w event with
      | none => rfl
      | some w' => exact ih w'

theorem runAll_take {w : World S K R A} {events : List (Event C E)}
    (h : (sys.runAll w events).isSome) (n : Nat) : (sys.runAll w (events.take n)).isSome := by
  rw [← List.take_append_drop n events, runAll_append] at h
  exact Option.isSome_of_isSome_bind h

theorem reaches_of_runAll {w w' : World S K R A} {events : List (Event C E)}
    (h : sys.runAll w events = some w') : sys.Reaches w w' := by
  induction events generalizing w with
  | nil =>
      obtain rfl := Option.some.inj h
      exact .refl _
  | cons event rest ih =>
      simp only [runAll, Option.bind_eq_some_iff] at h
      obtain ⟨w₁, hstep, hrest⟩ := h
      exact ReachesBy.trans (.step event (.refl _) trivial hstep) (ih hrest)

namespace Run

variable {w₀ : World S K R A} (run : sys.Run w₀)

def length : Nat := run.events.length

-- The world before the event at a position.
def world (n : Nat) : World S K R A := (sys.runAll w₀ (run.events.take n)).getD w₀

def last : World S K R A := run.world run.length

@[simp] theorem world_zero : run.world 0 = w₀ := rfl

theorem runAll_world (n : Nat) : sys.runAll w₀ (run.events.take n) = some (run.world n) := by
  obtain ⟨w, hw⟩ := Option.isSome_iff_exists.mp (runAll_take run.runs n)
  rw [world, hw]
  rfl

theorem step_at {n : Nat} {event : Event C E} (h : run.events[n]? = some event) :
    sys.step (run.world n) event = some (run.world (n + 1)) := by
  have hn := (List.getElem?_eq_some_iff.mp h).1
  have hlast := run.runAll_world (n + 1)
  have htake : run.events.take (n + 1) = run.events.take n ++ [event] := by
    rw [List.take_add_one, h]
    rfl
  rw [htake, runAll_append, run.runAll_world n] at hlast
  simpa [runAll] using hlast

theorem lt_length {n : Nat} {event : Event C E} (h : run.events[n]? = some event) :
    n < run.length :=
  (List.getElem?_eq_some_iff.mp h).1

-- What holds at the start and is kept by every event holds all along.
theorem induct {P : Nat → Prop} (hzero : P 0)
    (hstep : ∀ n event, run.events[n]? = some event → P n → P (n + 1)) :
    ∀ n, n ≤ run.length → P n := by
  intro n
  induction n with
  | zero => exact fun _ => hzero
  | succ n ih =>
      intro hn
      have hlt : n < run.events.length := hn
      exact hstep n _ (List.getElem?_eq_getElem hlt) (ih (Nat.le_of_lt hn))

theorem reaches (n : Nat) (hn : n ≤ run.length) : sys.Reaches w₀ (run.world n) := by
  refine run.induct (P := fun n => sys.Reaches w₀ (run.world n)) (.refl _) ?_ n hn
  intro n event hevent hreaches
  exact .step event hreaches trivial (run.step_at hevent)

-- No thread is taken out of the list.
theorem threads_succ {n : Nat} {event : Event C E} (h : run.events[n]? = some event) :
    (run.world n).threads.length ≤ (run.world (n + 1)).threads.length := by
  have hstep := run.step_at h
  cases event with
  | act i choice =>
      obtain ⟨s⟩ := actStep_of_step hstep
      rw [s.threads_after, List.length_append, List.length_set]
      exact Nat.le_add_right _ _
  | env event =>
      obtain ⟨out, -, hout⟩ := environment_of_step hstep
      rw [hout, List.length_append]
      exact Nat.le_add_right _ _

theorem threads_le {m n : Nat} (hmn : m ≤ n) (hn : n ≤ run.length) :
    (run.world m).threads.length ≤ (run.world n).threads.length := by
  induction n with
  | zero =>
      obtain rfl : m = 0 := by omega
      exact Nat.le_refl _
  | succ n ih =>
      by_cases hlast : m = n + 1
      · rw [hlast]
      · have hlt : n < run.events.length := hn
        have hsucc := run.threads_succ (List.getElem?_eq_getElem hlt)
        exact Nat.le_trans (ih (by omega) (Nat.le_of_lt hn)) hsucc

-- The act performed at a position, with its thread.
def actAt (n : Nat) : Option (Nat × C × A) :=
  match run.events[n]? with
  | some (.act i choice) =>
    ((run.world n).threads[i]?.bind fun t => t.todo.head?).map fun a => (i, choice, a)
  | _ => none

def Performs (n i : Nat) (choice : C) (a : A) : Prop := run.actAt n = some (i, choice, a)

variable {run}

theorem Performs.step {n i : Nat} {choice : C} {a : A} (h : run.Performs n i choice a) :
    ∃ s : ActStep sys (run.world n) i choice (run.world (n + 1)), s.act = a := by
  simp only [Performs, actAt] at h
  split at h
  · rename_i i' choice' hevent
    simp only [Option.map_eq_some_iff, Option.bind_eq_some_iff, Prod.mk.injEq] at h
    obtain ⟨_, ⟨t, ht, htodo⟩, rfl, rfl, rfl⟩ := h
    obtain ⟨s⟩ := actStep_of_step (run.step_at hevent)
    have hthread : s.thread = t := Option.some.inj (s.at_index.symm.trans ht)
    rw [← hthread, s.todo] at htodo
    exact ⟨s, Option.some.inj htodo⟩
  · simp at h

theorem Performs.event {n i : Nat} {choice : C} {a : A} (h : run.Performs n i choice a) :
    run.events[n]? = some (.act i choice) := by
  simp only [Performs, actAt] at h
  split at h
  · rename_i i' choice' hevent
    simp only [Option.map_eq_some_iff, Prod.mk.injEq] at h
    obtain ⟨_, _, rfl, rfl, _⟩ := h
    exact hevent
  · simp at h

theorem Performs.lt_length {n i : Nat} {choice : C} {a : A} (h : run.Performs n i choice a) :
    n < run.length :=
  run.lt_length h.event

theorem performs_of_step {n i : Nat} {choice : C} (h : run.events[n]? = some (.act i choice))
    (s : ActStep sys (run.world n) i choice (run.world (n + 1))) :
    run.Performs n i choice s.act := by
  simp [Performs, actAt, h, s.at_index, s.todo]

theorem Performs.unique {n i i' : Nat} {choice choice' : C} {a a' : A}
    (h : run.Performs n i choice a) (h' : run.Performs n i' choice' a') :
    i = i' ∧ choice = choice' ∧ a = a' := by
  have heq := h.symm.trans h'
  simp only [Option.some.injEq, Prod.mk.injEq] at heq
  exact heq

-- A thread that is not there yet has done nothing.
theorem not_performs_before {m n j : Nat} {choice : C} {a : A} (hn : n ≤ run.length)
    (hnew : (run.world n).threads.length ≤ j) (hmn : m ≤ n) : ¬run.Performs m j choice a := by
  intro h
  obtain ⟨s, -⟩ := h.step
  have hthere : j < (run.world n).threads.length :=
    Nat.lt_of_lt_of_le s.lt_length (run.threads_le hmn hn)
  exact Nat.not_le_of_lt hthere hnew

end Run

end System

end

end LibVirtualGamepad.Interleaving
