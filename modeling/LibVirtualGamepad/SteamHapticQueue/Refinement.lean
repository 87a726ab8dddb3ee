import LibVirtualGamepad.Coalescing.Run
import LibVirtualGamepad.Cursor.Lemmas
import LibVirtualGamepad.SteamHapticQueue

namespace LibVirtualGamepad

-- The keys a report can have: one for family 0x80, three for each of 0x81 and 0x82.
def stopKeys : Finset Nat := {515, 517, 518, 519, 521, 522, 523}

theorem stopKeys_card : stopKeys.card = 7 := rfl

theorem side_cases (side : UInt8) (h : ¬side > 2) : side = 0 ∨ side = 1 ∨ side = 2 := by
  have hle : side.toNat ≤ 2 := UInt8.not_lt.mp h
  rcases (show side.toNat = 0 ∨ side.toNat = 1 ∨ side.toNat = 2 by omega) with h | h | h
  · exact .inl (UInt8.toNat_inj.mp h)
  · exact .inr (.inl (UInt8.toNat_inj.mp h))
  · exact .inr (.inr (UInt8.toNat_inj.mp h))

theorem steamHapticStopKey_mem (report : Vector UInt8 steamHapticReportBytes) (length : UInt8)
    (h : steamHapticStopKey report length ≠ 0) : steamHapticStopKey report length ∈ stopKeys := by
  unfold steamHapticStopKey at h ⊢
  split
  · decide
  · rename_i hpulse
    rw [if_neg hpulse] at h
    split
    · rename_i hshort
      simp [hshort] at h
    · rename_i hlong
      rw [if_neg hlong] at h
      have hside := side_cases report[1] fun hgt => hlong (.inr hgt)
      split
      · rename_i hstop
        have hid : report[0] = 0x81 ∨ report[0] = 0x82 := by
          rcases hstop with hstop | hstop
          · exact .inl hstop.2.1
          · exact .inr hstop.2.1
        rcases hid with hid | hid <;> rcases hside with hs | hs | hs <;> rw [hid, hs] <;> decide
      · rename_i hgo
        simp [hgo] at h

theorem hapticStopKey_mem (event : FeedbackEvent) (h : hapticStopKey event ≠ 0) :
    hapticStopKey event ∈ stopKeys := by
  unfold hapticStopKey at h ⊢
  split
  · rename_i hother
    simp [hother] at h
  · rename_i hsteam
    rw [if_neg hsteam] at h
    exact steamHapticStopKey_mem _ _ h

namespace FeedbackRing

open Coalescing

variable {capacity : Nat}

@[simp] theorem pending_length (ring : FeedbackRing capacity) :
    ring.pending.length = ring.cursor.count := by
  simp [pending]

theorem pending_emptyAt (queue : Vector FeedbackEvent capacity) (head : Fin capacity)
    (evicted : UInt32) : (emptyAt queue head evicted).pending = [] := rfl

theorem pending_store (ring : FeedbackRing capacity) (event : FeedbackEvent)
    (h : ring.cursor.count < capacity) : (ring.store event).pending = ring.pending ++ [event] :=
  Cursor.view_push ring.cursor ring.queue event h

theorem pending_remove (ring : FeedbackRing capacity) (victim : Nat)
    (h : victim < ring.cursor.count) :
    (ring.remove victim).pending = ring.pending.eraseIdx victim :=
  Cursor.view_shrink_shift ring.cursor ring.queue victim h

-- The search over the cells is a search over the waiting events.
theorem find_eq (ring : FeedbackRing capacity) (p : FeedbackEvent → Bool) :
    ring.find p = ring.pending.findIdx? p := by
  have hget (i : Nat) (hi : i < ring.pending.length) :
      ring.pending[i] = ring.cursor.read ring.queue i := by
    have hsome := Cursor.view_getElem? ring.cursor ring.queue (by simpa using hi)
    exact (List.getElem?_eq_some_iff.mp hsome).2
  unfold find
  cases hf : ring.pending.findIdx? p with
  | none =>
      rw [List.find?_range_eq_none]
      intro i hi
      have hlen : i < ring.pending.length := by simpa using hi
      have hnone := List.findIdx?_eq_none_iff.mp hf _ (List.getElem_mem hlen)
      rw [hget i hlen] at hnone
      simp [hnone]
  | some i =>
      obtain ⟨hlen, hp, hbefore⟩ := List.findIdx?_eq_some_iff_getElem.mp hf
      rw [List.find?_range_eq_some]
      refine ⟨by rwa [hget i hlen] at hp, by simpa using hlen, ?_⟩
      intro j hj
      have hneg := hbefore j hj
      rw [hget j (by omega)] at hneg
      simpa using hneg

-- Removing the first event with a property and storing another one.
theorem pending_replace (ring : FeedbackRing capacity) (p : FeedbackEvent → Bool) (victim : Nat)
    (event : FeedbackEvent) (h : ring.find p = some victim) :
    ((ring.remove victim).store event).pending = ring.pending.eraseP p ++ [event] := by
  rw [find_eq] at h
  obtain ⟨hlen, _, _⟩ := List.findIdx?_eq_some_iff_getElem.mp h
  have hvictim : victim < ring.cursor.count := by simpa using hlen
  have hroom : (ring.remove victim).cursor.count < capacity := by
    have hle := ring.cursor.count_le
    simp only [remove, Cursor.shrink_count]
    omega
  rw [pending_store _ _ hroom, pending_remove ring victim hvictim, List.eraseP_eq_eraseIdx, h]

theorem any_of_find (ring : FeedbackRing capacity) (p : FeedbackEvent → Bool) (victim : Nat)
    (h : ring.find p = some victim) : ring.pending.any p = true := by
  rw [find_eq] at h
  obtain ⟨hlen, hp, _⟩ := List.findIdx?_eq_some_iff_getElem.mp h
  exact List.any_eq_true.mpr ⟨_, List.getElem_mem hlen, hp⟩

theorem any_of_find_none (ring : FeedbackRing capacity) (p : FeedbackEvent → Bool)
    (h : ring.find p = none) : ring.pending.any p = false := by
  rw [find_eq, List.findIdx?_eq_none_iff] at h
  simpa using h

-- An enqueue does to the waiting events, to its result and to the counter what
-- admission to a coalescing line does.
theorem enqueueHaptic_spec (ring : FeedbackRing capacity) (event : FeedbackEvent) :
    (ring.enqueueHaptic event).2.pending = accept hapticStopKey capacity ring.pending event ∧
    ((ring.enqueueHaptic event).1 = true ↔
      outcome hapticStopKey capacity ring.pending event ≠ .refused) ∧
    (ring.enqueueHaptic event).2.evicted = ring.evicted +
      if outcome hapticStopKey capacity ring.pending event = .evicted then 1 else 0 := by
  have hsame : (if hapticStopKey event = 0 then none
        else ring.find fun other => hapticStopKey other == hapticStopKey event) =
      ring.find (Same hapticStopKey event) := by
    split
    · rename_i hz
      symm
      rw [find_eq, List.findIdx?_eq_none_iff]
      intro other _
      simp [Same, hz]
    · rename_i hz
      congr 1
      funext other
      simp [Same, hz]
  unfold enqueueHaptic
  simp only [hsame]
  cases hf : ring.find (Same hapticStopKey event) with
  | some victim =>
      have ho : outcome hapticStopKey capacity ring.pending event = .coalesced := by
        simp only [outcome, any_of_find ring _ victim hf, if_true]
      simp only [accept, ho, reduceCtorEq, ne_eq, not_false_eq_true, if_false]
      exact ⟨pending_replace ring _ victim event hf, trivial, (UInt32.add_zero _).symm⟩
  | none =>
      have hnone := any_of_find_none ring _ hf
      have hord : (fun other => hapticStopKey other == 0) = Ordinary hapticStopKey := rfl
      rw [hord]
      cases hfull : ring.cursor.full with
      | false =>
          have hlt := Cursor.lt_of_not_full _ hfull
          have hne : ring.pending.length ≠ capacity := by rw [pending_length]; omega
          have ho : outcome hapticStopKey capacity ring.pending event = .appended := by
            simp only [outcome, hnone, hne, Bool.false_eq_true, if_false]
          simp only [accept, ho, reduceCtorEq, ne_eq, not_false_eq_true, if_false,
            Bool.false_eq_true]
          exact ⟨pending_store ring event hlt, trivial, (UInt32.add_zero _).symm⟩
      | true =>
          have hlen : ring.pending.length = capacity := by
            rw [pending_length, (Cursor.full_iff _).mp hfull]
          cases hv : ring.find (Ordinary hapticStopKey) with
          | some victim =>
              have ho : outcome hapticStopKey capacity ring.pending event = .evicted := by
                simp only [outcome, hnone, hlen, any_of_find ring _ victim hv, Bool.false_eq_true,
                  if_false, if_true]
              simp only [accept, ho, reduceCtorEq, ne_eq, not_false_eq_true, if_true]
              exact ⟨pending_replace { ring with evicted := ring.evicted + 1 } _ victim event hv,
                trivial, rfl⟩
          | none =>
              have ho : outcome hapticStopKey capacity ring.pending event = .refused := by
                simp only [outcome, hnone, hlen, any_of_find_none ring _ hv, Bool.false_eq_true,
                  if_false, if_true]
              simp only [accept, ho, reduceCtorEq, ne_eq, not_true_eq_false, if_true, if_false,
                Bool.false_eq_true]
              exact ⟨trivial, trivial, (UInt32.add_zero _).symm⟩

theorem poll_eq_none_iff (ring : FeedbackRing capacity) :
    ring.poll = none ↔ ring.pending = [] := by
  rw [← List.length_eq_zero_iff, pending_length]
  unfold poll
  split <;> simp [*]

-- A poll takes the oldest event and leaves the others.
theorem poll_eq_some (ring next : FeedbackRing capacity) (event : FeedbackEvent)
    (h : ring.poll = some (event, next)) :
    ring.pending = event :: next.pending ∧ next.evicted = ring.evicted := by
  unfold poll at h
  split at h
  · cases h
  · rename_i hcount
    cases h
    exact ⟨Cursor.view_cons ring.cursor ring.queue (by omega), rfl⟩

-- The settings ring keeps the newest events, in order.
theorem enqueueSettings_spec (ring : FeedbackRing capacity) (event : FeedbackEvent)
    (h : 0 < capacity) :
    (ring.enqueueSettings event).pending =
        (if ring.cursor.full then ring.pending.tail else ring.pending) ++ [event] ∧
      (ring.enqueueSettings event).evicted =
        ring.evicted + if ring.cursor.full then 1 else 0 := by
  cases hfull : ring.cursor.full with
  | true =>
      let popped := { ring with cursor := ring.cursor.pop, evicted := ring.evicted + 1 }
      have hc := (Cursor.full_iff _).mp hfull
      have hroom : popped.cursor.count < capacity := by
        have hpop : popped.cursor.count = ring.cursor.count - 1 := rfl
        omega
      have hpending : popped.pending = ring.pending.tail :=
        Cursor.view_pop ring.cursor ring.queue
      have hstore := pending_store popped event hroom
      rw [hpending] at hstore
      simp only [enqueueSettings, hfull, if_true]
      exact ⟨hstore, rfl⟩
  | false =>
      have hstore := pending_store ring event (Cursor.lt_of_not_full _ hfull)
      simp only [enqueueSettings, hfull, Bool.false_eq_true, if_false]
      exact ⟨hstore, (UInt32.add_zero _).symm⟩

end FeedbackRing

end LibVirtualGamepad
