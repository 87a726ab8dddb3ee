import LibVirtualGamepad.Cursor

namespace LibVirtualGamepad.Cursor

variable {capacity : Nat} {α : Type*}

-- Fewer than `capacity` places apart, two entries never share a cell.
theorem slot_injective (cursor : Cursor capacity) {i j : Nat} (hi : i < capacity)
    (hj : j < capacity) (h : cursor.slot i = cursor.slot j) : i = j := by
  have hh := cursor.head.isLt
  have hm : (cursor.head + i) % capacity = (cursor.head + j) % capacity := congrArg Fin.val h
  by_cases hwi : cursor.head + i < capacity <;> by_cases hwj : cursor.head + j < capacity
  · rw [Nat.mod_eq_of_lt hwi, Nat.mod_eq_of_lt hwj] at hm
    omega
  · rw [Nat.mod_eq_of_lt hwi, Nat.mod_eq_sub_mod (by omega), Nat.mod_eq_of_lt (by omega)] at hm
    omega
  · rw [Nat.mod_eq_of_lt hwj, Nat.mod_eq_sub_mod (by omega), Nat.mod_eq_of_lt (by omega)] at hm
    omega
  · rw [Nat.mod_eq_sub_mod (by omega), Nat.mod_eq_of_lt (by omega),
      Nat.mod_eq_sub_mod (by omega), Nat.mod_eq_of_lt (by omega)] at hm
    omega

theorem slot_pop (cursor : Cursor capacity) (i : Nat) :
    cursor.pop.slot i = cursor.slot (i + 1) := by
  apply Fin.ext
  simp only [slot, pop, Nat.mod_add_mod]
  congr 1
  omega

theorem slot_push (cursor : Cursor capacity) (i : Nat) : cursor.push.slot i = cursor.slot i := by
  unfold push
  split <;> rfl

@[simp] theorem pop_count (cursor : Cursor capacity) : cursor.pop.count = cursor.count - 1 := rfl

@[simp] theorem shrink_count (cursor : Cursor capacity) :
    cursor.shrink.count = cursor.count - 1 := rfl

theorem push_count (cursor : Cursor capacity) (h : cursor.count < capacity) :
    cursor.push.count = cursor.count + 1 := by
  simp only [push, h, dite_true]

theorem full_iff (cursor : Cursor capacity) : cursor.full = true ↔ cursor.count = capacity := by
  simp [full]

theorem lt_of_not_full (cursor : Cursor capacity) (h : cursor.full = false) :
    cursor.count < capacity := by
  have hne : cursor.count ≠ capacity := by simpa [full] using h
  have hle := cursor.count_le
  omega

theorem read_write (cursor : Cursor capacity) (cells : Vector α capacity) (value : α) (i : Nat) :
    cursor.read (cursor.write cells i value) i = value := by
  simp [read, write]

theorem read_write_of_ne (cursor : Cursor capacity) (cells : Vector α capacity) (value : α)
    {i j : Nat} (hi : i < capacity) (hj : j < capacity) (hne : i ≠ j) :
    cursor.read (cursor.write cells i value) j = cursor.read cells j := by
  have hs : (cursor.slot i).val ≠ (cursor.slot j).val := fun h =>
    hne (cursor.slot_injective hi hj (Fin.ext h))
  simp [read, write, Vector.getElem_set_ne, hs]

@[simp] theorem view_length (cursor : Cursor capacity) (cells : Vector α capacity) :
    (cursor.view cells).length = cursor.count := by
  simp [view]

theorem view_getElem? (cursor : Cursor capacity) (cells : Vector α capacity) {i : Nat}
    (hi : i < cursor.count) : (cursor.view cells)[i]? = some (cursor.read cells i) := by
  simp [view, hi]

theorem view_eq_nil_iff (cursor : Cursor capacity) (cells : Vector α capacity) :
    cursor.view cells = [] ↔ cursor.count = 0 := by
  rw [← List.length_eq_zero_iff, view_length]

theorem view_pop (cursor : Cursor capacity) (cells : Vector α capacity) :
    cursor.pop.view cells = (cursor.view cells).tail := by
  apply List.ext_getElem?
  intro i
  by_cases hi : i + 1 < cursor.count
  · have hpop : i < cursor.pop.count := by simp only [pop_count]; omega
    rw [view_getElem? _ _ hpop, List.getElem?_tail, view_getElem? cursor cells hi]
    simp only [read, slot_pop]
  · rw [List.getElem?_eq_none (by simp; omega), List.getElem?_eq_none (by simp; omega)]

theorem view_cons (cursor : Cursor capacity) (cells : Vector α capacity)
    (h : 0 < cursor.count) :
    cursor.view cells = cursor.read cells 0 :: cursor.pop.view cells := by
  rw [view_pop]
  have hne : cursor.view cells ≠ [] := by
    rw [Ne, view_eq_nil_iff]
    omega
  obtain ⟨first, rest, hv⟩ := List.exists_cons_of_ne_nil hne
  have hz := view_getElem? cursor cells h
  rw [hv] at hz ⊢
  simpa using hz

-- Storing at the tail and counting the entry appends it.
theorem view_push (cursor : Cursor capacity) (cells : Vector α capacity) (value : α)
    (h : cursor.count < capacity) :
    cursor.push.view (cursor.write cells cursor.count value) = cursor.view cells ++ [value] := by
  have hread (i : Nat) : cursor.push.read (cursor.write cells cursor.count value) i =
      cursor.read (cursor.write cells cursor.count value) i := by
    simp only [read, slot_push]
  unfold view
  rw [push_count cursor h, List.range_succ, List.map_append, List.map_singleton, hread,
    read_write]
  congr 1
  apply List.map_congr_left
  intro i hi
  rw [hread]
  have hlt := List.mem_range.mp hi
  exact read_write_of_ne cursor cells value h (by omega) (by omega)

-- The invariant of the closing loop: cells before the gap are untouched, cells
-- inside the moved range hold their successor, cells behind it are untouched.
theorem read_shift (cursor : Cursor capacity) (cells : Vector α capacity) (i steps : Nat)
    (hbound : i + steps < capacity) (j : Nat) (hj : j < capacity) :
    cursor.read (cursor.shift cells i steps) j =
      if i ≤ j ∧ j < i + steps then cursor.read cells (j + 1) else cursor.read cells j := by
  induction steps generalizing cells i with
  | zero =>
      have hne : ¬(i ≤ j ∧ j < i + 0) := by omega
      simp only [shift, hne, if_false]
  | succ steps ih =>
      rw [shift, ih _ _ (by omega)]
      by_cases hlater : i + 1 ≤ j ∧ j < i + 1 + steps
      · have hin : i ≤ j ∧ j < i + (steps + 1) := by omega
        rw [if_pos hlater, if_pos hin]
        exact read_write_of_ne cursor cells _ (by omega) (by omega) (by omega)
      · rw [if_neg hlater]
        by_cases hji : j = i
        · subst hji
          rw [read_write, if_pos (by omega)]
        · rw [if_neg (by omega)]
          exact read_write_of_ne cursor cells _ (by omega) hj (fun h => hji h.symm)

-- Closing the gap of one entry and forgetting the last cell removes that entry.
theorem view_shrink_shift (cursor : Cursor capacity) (cells : Vector α capacity) (victim : Nat)
    (h : victim < cursor.count) :
    cursor.shrink.view (cursor.shift cells victim (cursor.count - 1 - victim)) =
      (cursor.view cells).eraseIdx victim := by
  have hle := cursor.count_le
  apply List.ext_getElem?
  intro j
  by_cases hj : j < cursor.count - 1
  · rw [view_getElem? _ _ (by simpa using hj)]
    have hread := read_shift cursor cells victim (cursor.count - 1 - victim) (by omega) j (by omega)
    have hshrink : cursor.shrink.read (cursor.shift cells victim (cursor.count - 1 - victim)) j =
        cursor.read (cursor.shift cells victim (cursor.count - 1 - victim)) j := rfl
    rw [hshrink, hread]
    by_cases hbefore : j < victim
    · rw [if_neg (by omega), List.getElem?_eraseIdx_of_lt hbefore,
        view_getElem? cursor cells (by omega)]
    · rw [if_pos (by omega), List.getElem?_eraseIdx_of_ge (by omega),
        view_getElem? cursor cells (by omega)]
  · rw [List.getElem?_eq_none (by simp; omega), List.getElem?_eq_none]
    rw [List.length_eraseIdx_of_lt (by simpa using h), view_length]
    omega

end LibVirtualGamepad.Cursor
