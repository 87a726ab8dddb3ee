import LibVirtualGamepad.ReportPump
import LibVirtualGamepad.Cursor.Lemmas

namespace LibVirtualGamepad

namespace ReportKind

-- The kinds that describe controller state, as opposed to replies and asides.
def isState : ReportKind → Bool
  | continuous | transition => true
  | priority | aside => false

end ReportKind

-- What the pump is for, over arbitrary entries: three waiting lines with their
-- loss rules and no storage.
structure Queues (α : Type*) where
  priority : List α
  ring : List (α × Bool)
  latest : Option α

namespace Queues

variable {α β : Type*}

def empty : Queues α := ⟨[], [], none⟩

def enqueue (queues : Queues α) (entry : α) : ReportKind → Queues α
  | .priority =>
      if priorityCapacity ≤ queues.priority.length then queues
      else { queues with priority := queues.priority ++ [entry] }
  | .transition =>
      { queues with
        ring := (if queues.ring.length = transitionCapacity then queues.ring.tail
          else queues.ring) ++ [(entry, false)]
        latest := none }
  | .aside =>
      if queues.ring.length = transitionCapacity then queues
      else { queues with ring := queues.ring ++ [(entry, true)] }
  | .continuous => { queues with latest := some entry }

-- The next entry to leave, with the kind of line it leaves.
def take (queues : Queues α) : Option (α × ReportKind) × Queues α :=
  match queues.priority with
  | entry :: rest => (some (entry, .priority), { queues with priority := rest })
  | [] =>
    match queues.ring with
    | (entry, isAside) :: rest =>
      (some (entry, if isAside then .aside else .transition), { queues with ring := rest })
    | [] =>
      match queues.latest with
      | some entry => (some (entry, .continuous), { queues with latest := none })
      | none => (none, queues)

def map (f : α → β) (queues : Queues α) : Queues β where
  priority := queues.priority.map f
  ring := queues.ring.map fun entry => (f entry.1, entry.2)
  latest := queues.latest.map f

-- The state reports that are still waiting, in the order they will leave.
def pendingState (queues : Queues α) : List α :=
  (queues.ring.filter fun entry => !entry.2).map Prod.fst ++ queues.latest.toList

-- The pump never looks into an entry, so renaming entries commutes with it.
theorem map_enqueue (f : α → β) (queues : Queues α) (entry : α) (kind : ReportKind) :
    (queues.map f).enqueue (f entry) kind = (queues.enqueue entry kind).map f := by
  cases kind with
  | priority =>
      simp only [enqueue, map, List.length_map]
      split <;> simp
  | transition =>
      simp only [enqueue, map, List.length_map]
      split <;> simp
  | aside =>
      simp only [enqueue, map, List.length_map]
      split <;> simp
  | continuous => rfl

theorem map_take (f : α → β) (queues : Queues α) :
    (queues.map f).take =
      (queues.take.1.map fun taken => (f taken.1, taken.2), queues.take.2.map f) := by
  rcases queues with ⟨priority, ring, latest⟩
  cases priority with
  | cons entry rest => rfl
  | nil =>
      cases ring with
      | cons entry rest => rfl
      | nil => cases latest <;> rfl

theorem pendingState_enqueue_of_not_isState (queues : Queues α) (entry : α) (kind : ReportKind)
    (hk : kind.isState = false) :
    (queues.enqueue entry kind).pendingState = queues.pendingState := by
  cases kind with
  | priority =>
      simp only [enqueue]
      split <;> rfl
  | aside =>
      simp only [enqueue]
      split
      · rfl
      · simp [pendingState]
  | transition => simp [ReportKind.isState] at hk
  | continuous => simp [ReportKind.isState] at hk

-- A new state report goes behind the ones that are kept. Which ones are lost
-- does not matter for order or freshness, only that none is moved.
theorem pendingState_enqueue_of_isState (queues : Queues α) (entry : α) (kind : ReportKind)
    (hk : kind.isState = true) :
    ∃ kept, kept.Sublist queues.pendingState ∧
      (queues.enqueue entry kind).pendingState = kept ++ [entry] := by
  cases kind with
  | priority => simp [ReportKind.isState] at hk
  | aside => simp [ReportKind.isState] at hk
  | transition =>
      refine ⟨((if queues.ring.length = transitionCapacity then queues.ring.tail
          else queues.ring).filter fun entry => !entry.2).map Prod.fst, ?_, ?_⟩
      · apply List.Sublist.trans _ (List.sublist_append_left _ _)
        apply List.Sublist.map
        apply List.Sublist.filter
        split
        · exact List.tail_sublist _
        · exact List.Sublist.refl _
      · simp [enqueue, pendingState]
  | continuous =>
      exact ⟨(queues.ring.filter fun entry => !entry.2).map Prod.fst,
        List.sublist_append_left _ _, by simp [enqueue, pendingState]⟩

-- State reports leave from the front of the pending ones.
theorem pendingState_take (queues : Queues α) (entry : α) (kind : ReportKind)
    (h : queues.take.1 = some (entry, kind)) :
    queues.pendingState =
      (if kind.isState then [entry] else []) ++ queues.take.2.pendingState := by
  rcases queues with ⟨priority, ring, latest⟩
  cases priority with
  | cons first rest =>
      obtain ⟨rfl, rfl⟩ : first = entry ∧ ReportKind.priority = kind := by simpa [take] using h
      rfl
  | nil =>
      cases ring with
      | cons first rest =>
          rcases first with ⟨first, isAside⟩
          cases isAside with
          | true =>
              obtain ⟨rfl, rfl⟩ : first = entry ∧ ReportKind.aside = kind := by
                simpa [take] using h
              rfl
          | false =>
              obtain ⟨rfl, rfl⟩ : first = entry ∧ ReportKind.transition = kind := by
                simpa [take] using h
              rfl
      | nil =>
          cases latest with
          | none => simp [take] at h
          | some last =>
              obtain ⟨rfl, rfl⟩ : last = entry ∧ ReportKind.continuous = kind := by
                simpa [take] using h
              rfl

theorem take_none (queues : Queues α) (h : queues.take.1 = none) : queues.take.2 = queues := by
  rcases queues with ⟨priority, ring, latest⟩
  cases priority with
  | cons entry rest => simp [take] at h
  | nil =>
      cases ring with
      | cons entry rest => simp [take] at h
      | nil =>
          cases latest with
          | none => rfl
          | some last => simp [take] at h

-- Every line holds entries that belong to its kind.
def Sorted (belongs : α → ReportKind → Prop) (queues : Queues α) : Prop :=
  (∀ entry ∈ queues.priority, belongs entry .priority) ∧
  (∀ entry ∈ queues.ring, belongs entry.1 (if entry.2 then .aside else .transition)) ∧
  ∀ entry ∈ queues.latest, belongs entry .continuous

theorem sorted_empty (belongs : α → ReportKind → Prop) : Sorted belongs empty := by
  simp [Sorted, empty]

theorem sorted_mono {belongs other : α → ReportKind → Prop} (queues : Queues α)
    (h : Sorted belongs queues) (hle : ∀ entry kind, belongs entry kind → other entry kind) :
    Sorted other queues :=
  ⟨fun entry hm => hle _ _ (h.1 entry hm), fun entry hm => hle _ _ (h.2.1 entry hm),
    fun entry hm => hle _ _ (h.2.2 entry hm)⟩

theorem sorted_enqueue (belongs : α → ReportKind → Prop) (queues : Queues α) (entry : α)
    (kind : ReportKind) (h : Sorted belongs queues) (hk : belongs entry kind) :
    Sorted belongs (queues.enqueue entry kind) := by
  obtain ⟨hp, hr, hl⟩ := h
  cases kind with
  | priority =>
      simp only [enqueue]
      split
      · exact ⟨hp, hr, hl⟩
      · refine ⟨?_, hr, hl⟩
        intro other hm
        rcases List.mem_append.mp hm with hm | hm
        · exact hp other hm
        · rwa [List.mem_singleton.mp hm]
  | transition =>
      refine ⟨hp, ?_, by simp [enqueue]⟩
      intro other hm
      rcases List.mem_append.mp hm with hm | hm
      · apply hr
        split at hm
        · exact List.mem_of_mem_tail hm
        · exact hm
      · rw [List.mem_singleton.mp hm]
        exact hk
  | aside =>
      simp only [enqueue]
      split
      · exact ⟨hp, hr, hl⟩
      · refine ⟨hp, ?_, hl⟩
        intro other hm
        rcases List.mem_append.mp hm with hm | hm
        · exact hr other hm
        · rw [List.mem_singleton.mp hm]
          exact hk
  | continuous => exact ⟨hp, hr, by simpa [enqueue] using hk⟩

theorem sorted_take (belongs : α → ReportKind → Prop) (queues : Queues α)
    (h : Sorted belongs queues) :
    Sorted belongs queues.take.2 ∧ ∀ taken ∈ queues.take.1, belongs taken.1 taken.2 := by
  obtain ⟨hp, hr, hl⟩ := h
  rcases queues with ⟨priority, ring, latest⟩
  cases priority with
  | cons entry rest =>
      refine ⟨⟨fun other hm => hp other (List.mem_cons_of_mem _ hm), hr, hl⟩, ?_⟩
      simpa [take] using hp entry (by simp)
  | nil =>
      cases ring with
      | cons entry rest =>
          refine ⟨⟨by simp [take], fun other hm => hr other (List.mem_cons_of_mem _ hm), hl⟩, ?_⟩
          simpa [take] using hr entry (by simp)
      | nil =>
          cases latest with
          | none => exact ⟨⟨by simp [take], by simp [take], by simp [take]⟩, by simp [take]⟩
          | some last =>
              refine ⟨⟨by simp [take], by simp [take], by simp [take]⟩, ?_⟩
              simpa [take] using hl last (by simp)

-- A pending state report belongs to one of the two state kinds.
theorem pendingState_belongs (belongs : α → ReportKind → Prop) (queues : Queues α)
    (h : Sorted belongs queues) (entry : α) (hm : entry ∈ queues.pendingState) :
    ∃ kind, belongs entry kind := by
  rcases List.mem_append.mp hm with hm | hm
  · obtain ⟨other, ho, rfl⟩ := List.mem_map.mp hm
    exact ⟨_, h.2.1 other (List.mem_filter.mp ho).1⟩
  · exact ⟨_, h.2.2 entry (by simpa using hm)⟩

def size (queues : Queues α) : Nat :=
  queues.priority.length + queues.ring.length + queues.latest.toList.length

-- Nothing leaves empty lines only, and otherwise one entry does.
theorem size_take (queues : Queues α) :
    (queues.take.1 = none ∧ queues = empty) ∨
      (queues.take.1 ≠ none ∧ queues.size = queues.take.2.size + 1) := by
  rcases queues with ⟨priority, ring, latest⟩
  cases priority with
  | cons entry rest =>
      refine Or.inr ⟨by simp [take], ?_⟩
      simp only [take, size, List.length_cons]
      omega
  | nil =>
      cases ring with
      | cons entry rest =>
          refine Or.inr ⟨by simp [take], ?_⟩
          simp only [take, size, List.length_cons, List.length_nil]
          omega
      | nil =>
          cases latest with
          | none => exact Or.inl ⟨rfl, rfl⟩
          | some last => exact Or.inr ⟨by simp [take], by simp [take, size]⟩

end Queues

end LibVirtualGamepad
