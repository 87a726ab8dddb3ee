import LibVirtualGamepad.Coalescing

namespace LibVirtualGamepad.Coalescing

-- The history of a line: what entered it, what left it at the head and how many
-- entries it lost either way.
structure History (α : Type*) where
  pending : List α
  delivered : List α
  offered : List α
  coalesced : Nat
  evictions : Nat

namespace History

variable {α : Type*} (key : α → Nat) (capacity : Nat)

def start : History α := ⟨[], [], [], 0, 0⟩

def accept (line : History α) (entry : α) : History α where
  pending := Coalescing.accept key capacity line.pending entry
  delivered := line.delivered
  offered := line.offered ++ [entry]
  coalesced := line.coalesced +
    if outcome key capacity line.pending entry = .coalesced then 1 else 0
  evictions := line.evictions +
    if outcome key capacity line.pending entry = .evicted then 1 else 0

def deliver (line : History α) : History α :=
  { line with
    pending := line.pending.tail
    delivered := line.delivered ++ line.pending.head?.toList }

-- What holds of a line whose non-zero keys are among `keys`.
structure Valid (keys : Finset Nat) (line : History α) : Prop where
  distinct : Distinct key line.pending
  named : ∀ entry ∈ line.pending, key entry ≠ 0 → key entry ∈ keys
  ordinary : ((line.delivered ++ line.pending).filter (Ordinary key)).Sublist
    (line.offered.filter (Ordinary key))
  balance : line.offered.length =
    line.delivered.length + line.pending.length + line.coalesced + line.evictions

-- Within a group an entry with a key, once it is the newest of all that were
-- offered, is the newest of those delivered or waiting.
def Freshest {β : Type*} [DecidableEq β] (group : α → β) (line : History α) : Prop :=
  ∀ g entry, (line.offered.filter (group · = g)).getLast? = some entry → key entry ≠ 0 →
    ((line.delivered ++ line.pending).filter (group · = g)).getLast? = some entry

variable {key capacity} {keys : Finset Nat}

theorem valid_start : Valid key keys (start : History α) where
  distinct := List.Pairwise.nil
  named := by simp [start]
  ordinary := by simp [start]
  balance := rfl

theorem deliver_all (line : History α) :
    line.deliver.delivered ++ line.deliver.pending = line.delivered ++ line.pending := by
  cases hp : line.pending <;> simp [deliver, hp]

theorem valid_deliver (line : History α) (h : Valid key keys line) :
    Valid key keys line.deliver where
  distinct := h.distinct.sublist (List.tail_sublist _)
  named := fun entry hm => h.named entry (List.mem_of_mem_tail hm)
  ordinary := by rw [deliver_all]; exact h.ordinary
  balance := by
    have hlen : line.deliver.delivered.length + line.deliver.pending.length =
        line.delivered.length + line.pending.length := by
      have hall := congrArg List.length (deliver_all line)
      simpa using hall
    have hb := h.balance
    simp only [deliver] at hlen ⊢
    omega

theorem mem_of_mem_accept (pending : List α) (entry other : α)
    (h : other ∈ Coalescing.accept key capacity pending entry) : other ∈ pending ∨ other = entry := by
  unfold Coalescing.accept at h
  cases ho : outcome key capacity pending entry <;> rw [ho] at h
  · simpa using h
  · rcases List.mem_append.mp h with h | h
    · exact .inl (List.mem_of_mem_eraseP h)
    · exact .inr (List.mem_singleton.mp h)
  · rcases List.mem_append.mp h with h | h
    · exact .inl (List.mem_of_mem_eraseP h)
    · exact .inr (List.mem_singleton.mp h)
  · exact .inl h

-- The ordinary entries that are left are a part of those that were there before.
theorem filter_ordinary_accept_sublist (pending : List α) (entry : α) :
    ((Coalescing.accept key capacity pending entry).filter (Ordinary key)).Sublist
      (pending.filter (Ordinary key) ++ [entry].filter (Ordinary key)) := by
  rw [filter_ordinary_accept]
  cases outcome key capacity pending entry with
  | appended => exact .refl _
  | coalesced => exact .refl _
  | evicted => exact (List.tail_sublist _).append_right _
  | refused => exact List.sublist_append_left _ _

theorem valid_accept (line : History α) (entry : α) (hkeys : keys.card < capacity)
    (h : Valid key keys line) (hentry : key entry ≠ 0 → key entry ∈ keys) :
    Valid key keys (line.accept key capacity entry) where
  distinct := distinct_accept line.pending entry h.distinct
  named := by
    intro other hm hz
    rcases mem_of_mem_accept line.pending entry other hm with hm | rfl
    · exact h.named other hm hz
    · exact hentry hz
  ordinary := by
    have hpart := @filter_ordinary_accept_sublist _ key capacity line.pending entry
    have hall := h.ordinary.append_right ([entry].filter (Ordinary key))
    rw [List.filter_append] at hall
    simp only [accept, List.filter_append]
    apply List.Sublist.trans _ hall
    rw [List.append_assoc]
    exact hpart.append_left _
  balance := by
    have hlen := @length_accept _ key capacity line.pending entry
    have hnot := outcome_ne_refused keys hkeys line.pending entry h.distinct h.named
    have hb := h.balance
    simp only [accept, List.length_append, List.length_singleton]
    cases ho : outcome key capacity line.pending entry <;> rw [ho] at hlen
    · simp only [reduceCtorEq, if_false] at hlen ⊢
      omega
    · simp only [reduceCtorEq, if_false, if_true] at hlen ⊢
      omega
    · simp only [reduceCtorEq, if_false, if_true] at hlen ⊢
      omega
    · exact absurd ho hnot

section groups

variable {β : Type*} [DecidableEq β] (group : α → β)

theorem freshest_start : Freshest key group (start : History α) := by
  intro g entry hl
  simp [start] at hl

theorem freshest_deliver (line : History α) (h : Freshest key group line) :
    Freshest key group line.deliver := by
  intro g entry hl hz
  rw [deliver_all]
  exact h g entry hl hz

-- An admission that was not refused ends with the new entry; in front of it only
-- an ordinary entry or one of the new entry's own key may be missing.
theorem accept_split (pending : List α) (entry : α)
    (h : outcome key capacity pending entry ≠ .refused) :
    ∃ kept, Coalescing.accept key capacity pending entry = kept ++ [entry] ∧
      (kept = pending ∨ ∃ before victim after, pending = before ++ victim :: after ∧
        kept = before ++ after ∧
        (key victim = 0 ∨ key victim ≠ 0 ∧ key entry = key victim)) := by
  unfold Coalescing.accept
  cases ho : outcome key capacity pending entry with
  | refused => exact absurd ho h
  | appended => exact ⟨pending, rfl, .inl rfl⟩
  | coalesced =>
      obtain ⟨hz, other, hm, hk⟩ := (coalesced_iff pending entry).mp ho
      obtain ⟨victim, before, after, _, hs, hsplit, herase⟩ :=
        List.exists_of_eraseP hm ((same_iff entry other).mpr ⟨hz, hk⟩)
      have hv := (same_iff entry victim).mp hs
      refine ⟨before ++ after, by rw [herase], .inr ⟨before, victim, after, hsplit, rfl, .inr ?_⟩⟩
      exact ⟨by rw [hv.2]; exact hz, hv.2.symm⟩
  | evicted =>
      obtain ⟨before, victim, after, hsplit, _, hv, herase⟩ :=
        eraseP_ordinary_split pending (any_ordinary_of_evicted pending entry ho)
      exact ⟨before ++ after, by rw [herase], .inr ⟨before, victim, after, hsplit, rfl, .inl hv⟩⟩

-- Taking out an entry that is not the last one leaves the last one.
theorem getLast?_remove (front back : List α) (victim last : α)
    (h : (front ++ victim :: back).getLast? = some last) (hne : victim ≠ last) :
    (front ++ back).getLast? = some last := by
  cases hb : back with
  | nil =>
      rw [hb, List.getLast?_append] at h
      simp at h
      exact absurd h hne
  | cons first rest =>
      rw [hb] at h
      simpa [List.getLast?_append, List.getLast?_cons_cons] using h

theorem freshest_accept (line : History α) (entry : α) (hkeys : keys.card < capacity)
    (hv : Valid key keys line) (h : Freshest key group line)
    (hgroup : ∀ other, key other ≠ 0 → key entry = key other → group entry = group other) :
    Freshest key group (line.accept key capacity entry) := by
  have hnot := outcome_ne_refused keys hkeys line.pending entry hv.distinct hv.named
  obtain ⟨kept, haccept, hkept⟩ := accept_split line.pending entry hnot
  intro g last hl hz
  simp only [accept, List.filter_append] at hl
  simp only [accept, haccept]
  by_cases hg : group entry = g
  · -- The new entry is the newest of its group on both sides.
    have hlast : entry = last := by simpa [hg] using hl
    have hone : [entry].filter (group · = g) = [entry] := by simp [hg]
    rw [← List.append_assoc, List.filter_append, hone, List.getLast?_concat, hlast]
  · have hold : (line.offered.filter (group · = g)).getLast? = some last := by
      simpa [hg] using hl
    have hprev := h g last hold hz
    have hnone : [entry].filter (group · = g) = [] := by simp [hg]
    rw [← List.append_assoc, List.filter_append, hnone, List.append_nil]
    rcases hkept with rfl | ⟨before, victim, after, hpending, rfl, hvictim⟩
    · exact hprev
    · rw [hpending, List.filter_append, List.filter_append, List.filter_cons] at hprev
      rw [List.filter_append, List.filter_append]
      by_cases hgv : group victim = g
      · have hne : victim ≠ last := by
          rintro rfl
          rcases hvictim with hzero | ⟨hnz, hsame⟩
          · exact hz hzero
          · exact hg ((hgroup victim hnz hsame).trans hgv)
        simp only [hgv, decide_true, if_true] at hprev
        rw [← List.append_assoc] at hprev ⊢
        exact getLast?_remove _ _ victim last hprev hne
      · simp only [hgv, decide_false, Bool.false_eq_true, if_false] at hprev
        exact hprev

end groups

end History

end LibVirtualGamepad.Coalescing
