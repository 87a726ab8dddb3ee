import Mathlib.Algebra.Order.Ring.Int
import Mathlib.Data.Finset.Card
import Mathlib.Data.Finset.Dedup
import Mathlib.Data.Int.Bitwise
import Mathlib.Data.List.Lemmas
import Mathlib.Tactic.Common

namespace LibVirtualGamepad.Coalescing

-- A bounded line of entries with keys. Entries of one non-zero key replace each
-- other; only entries with key zero are ever given up for room.
variable {α : Type*} (key : α → Nat) (capacity : Nat)

inductive Outcome where
  | appended
  | coalesced
  | evicted
  | refused
  deriving DecidableEq

def Same (entry other : α) : Bool := key entry != 0 && key other == key entry

def Ordinary (entry : α) : Bool := key entry == 0

def outcome (pending : List α) (entry : α) : Outcome :=
  if pending.any (Same key entry) then .coalesced
  else if pending.length = capacity then
    if pending.any (Ordinary key) then .evicted else .refused
  else .appended

def accept (pending : List α) (entry : α) : List α :=
  match outcome key capacity pending entry with
  | .appended => pending ++ [entry]
  | .coalesced => pending.eraseP (Same key entry) ++ [entry]
  | .evicted => pending.eraseP (Ordinary key) ++ [entry]
  | .refused => pending

-- At most one waiting entry for each non-zero key.
def Distinct (pending : List α) : Prop :=
  pending.Pairwise fun entry other => key entry ≠ 0 → key entry ≠ key other

variable {key capacity}

theorem same_iff (entry other : α) :
    Same key entry other = true ↔ key entry ≠ 0 ∧ key other = key entry := by
  simp [Same]

theorem ordinary_iff (entry : α) : Ordinary key entry = true ↔ key entry = 0 := by
  simp [Ordinary]

theorem coalesced_iff (pending : List α) (entry : α) :
    outcome key capacity pending entry = .coalesced ↔
      key entry ≠ 0 ∧ ∃ other ∈ pending, key other = key entry := by
  have hany : pending.any (Same key entry) = true ↔
      key entry ≠ 0 ∧ ∃ other ∈ pending, key other = key entry := by
    rw [List.any_eq_true]
    constructor
    · rintro ⟨other, hm, hs⟩
      have hs' := (same_iff entry other).mp hs
      exact ⟨hs'.1, other, hm, hs'.2⟩
    · rintro ⟨hz, other, hm, hk⟩
      exact ⟨other, hm, (same_iff entry other).mpr ⟨hz, hk⟩⟩
  rw [← hany]
  unfold outcome
  split
  · simp [*]
  · split
    · split <;> simp [*]
    · simp [*]

-- A removal keeps order, so it keeps what holds of every pair.
theorem distinct_eraseP (pending : List α) (p : α → Bool) (h : Distinct key pending) :
    Distinct key (pending.eraseP p) :=
  h.sublist List.eraseP_sublist

theorem distinct_append (pending : List α) (entry : α) (h : Distinct key pending)
    (hn : key entry ≠ 0 → ∀ other ∈ pending, key other ≠ key entry) :
    Distinct key (pending ++ [entry]) := by
  unfold Distinct
  rw [List.pairwise_append]
  refine ⟨h, List.pairwise_singleton _ _, ?_⟩
  intro other ho last hl hz
  rw [List.mem_singleton.mp hl]
  intro he
  exact hn (by rwa [← he]) other ho he

-- Removing the waiting entry of a key leaves none of that key.
theorem eraseP_same_free (pending : List α) (entry : α) (h : Distinct key pending)
    (hz : key entry ≠ 0) (other : α) (hm : other ∈ pending.eraseP (Same key entry)) :
    key other ≠ key entry := by
  induction pending with
  | nil => simp at hm
  | cons first rest ih =>
      have hrest := (List.pairwise_cons.mp h).2
      by_cases hs : Same key entry first = true
      · rw [List.eraseP_cons_of_pos hs] at hm
        have hk := ((same_iff entry first).mp hs).2
        have hne := (List.pairwise_cons.mp h).1 other hm (by rw [hk]; exact hz)
        rw [hk] at hne
        exact fun he => hne he.symm
      · rw [List.eraseP_cons_of_neg (by simpa using hs)] at hm
        rcases List.mem_cons.mp hm with rfl | hm
        · intro he
          exact hs ((same_iff entry other).mpr ⟨hz, he⟩)
        · exact ih hrest hm

theorem not_same_of_outcome (pending : List α) (entry : α)
    (h : outcome key capacity pending entry ≠ .coalesced) (hz : key entry ≠ 0) :
    ∀ other ∈ pending, key other ≠ key entry := fun other hm hk =>
  h ((coalesced_iff pending entry).mpr ⟨hz, other, hm, hk⟩)

theorem distinct_accept (pending : List α) (entry : α) (h : Distinct key pending) :
    Distinct key (accept key capacity pending entry) := by
  unfold accept
  cases ho : outcome key capacity pending entry with
  | appended =>
      exact distinct_append pending entry h
        (not_same_of_outcome pending entry (by rw [ho]; decide))
  | coalesced =>
      have hz := ((coalesced_iff pending entry).mp ho).1
      exact distinct_append _ entry (distinct_eraseP pending _ h)
        fun _ => eraseP_same_free pending entry h hz
  | evicted =>
      have hfree := not_same_of_outcome pending entry (by rw [ho]; decide)
      exact distinct_append _ entry (distinct_eraseP pending _ h)
        fun hz other hm => hfree hz other (List.mem_of_mem_eraseP hm)
  | refused => exact h

-- With fewer non-zero keys than places, a full line always has an entry to give up.
theorem outcome_ne_refused (keys : Finset Nat) (hkeys : keys.card < capacity)
    (pending : List α) (entry : α) (h : Distinct key pending)
    (hmem : ∀ other ∈ pending, key other ≠ 0 → key other ∈ keys) :
    outcome key capacity pending entry ≠ .refused := by
  intro hr
  unfold outcome at hr
  split at hr
  · simp at hr
  · split at hr
    · rename_i hlen
      split at hr
      · simp at hr
      · rename_i hnone
        have hz : ∀ other ∈ pending, key other ≠ 0 := by
          intro other hm hk
          exact hnone (List.any_eq_true.mpr ⟨other, hm, (ordinary_iff other).mpr hk⟩)
        have hnodup : (pending.map key).Nodup := by
          rw [List.Nodup, List.pairwise_map]
          exact h.imp_of_mem fun hm _ hd => hd (hz _ hm)
        have hsub : (pending.map key).toFinset ⊆ keys := by
          intro k hk
          obtain ⟨other, hm, rfl⟩ := List.mem_map.mp (List.mem_toFinset.mp hk)
          exact hmem other hm (hz other hm)
        have hcard := Finset.card_le_card hsub
        rw [List.toFinset_card_of_nodup hnodup, List.length_map] at hcard
        omega
    · simp at hr

-- Only a newer entry of its own key removes an entry with a key.
theorem mem_accept (pending : List α) (entry other : α) (hz : key other ≠ 0)
    (hm : other ∈ pending) (hne : key entry ≠ key other) :
    other ∈ accept key capacity pending entry := by
  unfold accept
  cases outcome key capacity pending entry with
  | appended => exact List.mem_append_left _ hm
  | coalesced =>
      apply List.mem_append_left
      apply (List.mem_eraseP_of_neg _).mpr hm
      intro hs
      exact hne ((same_iff entry other).mp hs).2.symm
  | evicted =>
      apply List.mem_append_left
      apply (List.mem_eraseP_of_neg _).mpr hm
      intro hs
      exact hz ((ordinary_iff other).mp hs)
  | refused => exact hm

-- A newer entry of a waiting key takes the older one's place at the tail.
theorem accept_same (pending : List α) (entry other : α) (hz : key other ≠ 0)
    (hm : other ∈ pending) (hk : key entry = key other) :
    accept key capacity pending entry = pending.eraseP (Same key entry) ++ [entry] := by
  have ho : outcome key capacity pending entry = .coalesced :=
    (coalesced_iff pending entry).mpr ⟨by rwa [hk], other, hm, hk.symm⟩
  simp only [accept, ho]

theorem eraseP_ordinary_split (pending : List α) (h : pending.any (Ordinary key) = true) :
    ∃ before victim after, pending = before ++ victim :: after ∧
      (∀ other ∈ before, key other ≠ 0) ∧ key victim = 0 ∧
      pending.eraseP (Ordinary key) = before ++ after := by
  obtain ⟨victim, hv, hp⟩ := List.any_eq_true.mp h
  obtain ⟨x, before, after, hfree, hx, hsplit, herase⟩ := List.exists_of_eraseP hv hp
  refine ⟨before, x, after, hsplit, ?_, (ordinary_iff x).mp hx, herase⟩
  intro other hm hk
  exact hfree other hm ((ordinary_iff other).mpr hk)

theorem any_ordinary_of_evicted (pending : List α) (entry : α)
    (h : outcome key capacity pending entry = .evicted) : pending.any (Ordinary key) = true := by
  unfold outcome at h
  split at h
  · simp at h
  · split at h
    · split at h
      · assumption
      · simp at h
    · simp at h

-- The ordinary entries keep their order; an eviction takes the oldest of them.
theorem filter_ordinary_accept (pending : List α) (entry : α) :
    (accept key capacity pending entry).filter (Ordinary key) =
      match outcome key capacity pending entry with
      | .evicted => (pending.filter (Ordinary key)).tail ++ [entry].filter (Ordinary key)
      | .refused => pending.filter (Ordinary key)
      | _ => pending.filter (Ordinary key) ++ [entry].filter (Ordinary key) := by
  unfold accept
  cases ho : outcome key capacity pending entry with
  | appended => simp only [List.filter_append]
  | refused => rfl
  | coalesced =>
      simp only [List.filter_append]
      congr 1
      have hz := ((coalesced_iff pending entry).mp ho).1
      clear ho
      induction pending with
      | nil => rfl
      | cons first rest ih =>
          by_cases hs : Same key entry first = true
          · have hk := ((same_iff entry first).mp hs).2
            have hne : Ordinary key first = false := by simp [Ordinary, hk, hz]
            rw [List.eraseP_cons_of_pos hs, List.filter_cons_of_neg (by simp [hne])]
          · rw [List.eraseP_cons_of_neg (by simpa using hs)]
            by_cases hf : Ordinary key first = true
            · rw [List.filter_cons_of_pos hf, List.filter_cons_of_pos hf, ih]
            · rw [List.filter_cons_of_neg hf, List.filter_cons_of_neg hf, ih]
  | evicted =>
      obtain ⟨before, victim, after, hsplit, hbefore, hvictim, herase⟩ :=
        eraseP_ordinary_split pending (any_ordinary_of_evicted pending entry ho)
      have hnone : before.filter (Ordinary key) = [] := by
        rw [List.filter_eq_nil_iff]
        intro other hm
        simpa [Ordinary] using hbefore other hm
      have hv : Ordinary key victim = true := (ordinary_iff victim).mpr hvictim
      simp only [List.filter_append, herase]
      rw [hsplit, List.filter_append, hnone, List.filter_cons_of_pos hv]
      rfl

theorem length_accept (pending : List α) (entry : α) :
    (accept key capacity pending entry).length + (match outcome key capacity pending entry with
      | .appended => 0
      | _ => 1) = pending.length + 1 := by
  unfold accept
  cases ho : outcome key capacity pending entry with
  | appended => simp
  | refused => simp
  | coalesced =>
      obtain ⟨hz, other, hm, hk⟩ := (coalesced_iff pending entry).mp ho
      have hs : Same key entry other = true := (same_iff entry other).mpr ⟨hz, hk⟩
      have hl := List.length_eraseP_of_mem hm hs
      have hpos := List.length_pos_of_mem hm
      simp only [List.length_append, List.length_singleton, hl]
      omega
  | evicted =>
      obtain ⟨victim, hm, hs⟩ := List.any_eq_true.mp (any_ordinary_of_evicted pending entry ho)
      have hl := List.length_eraseP_of_mem hm hs
      have hpos := List.length_pos_of_mem hm
      simp only [List.length_append, List.length_singleton, hl]
      omega

end LibVirtualGamepad.Coalescing
