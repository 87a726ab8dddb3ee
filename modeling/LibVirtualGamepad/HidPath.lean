import LibVirtualGamepad.WideString

namespace LibVirtualGamepad

open WideString

def lowerInstancePrefix : List WChar := literal "vibeshinegamepad"

-- The digits from the left, refused at the first unit that is no digit.
def childSlotDigits : UInt32 → List WChar → Option UInt32
  | value, [] => some value
  | value, c :: rest =>
      if c < wide '0' ∨ c > wide '9' then none
      else childSlotDigits (value * 10 + (c - wide '0').toUInt32) rest

-- The slot in the identity of a child, which is the last segment of the device
-- instance path. The caller has lower-cased the path.
def virtualSc26ChildSlot (lowerParentInstanceId : List WChar) : Option UInt32 :=
  match rfind lowerParentInstanceId (wide '&') with
  | none => none
  | some amp =>
      let segment := lowerParentInstanceId.drop (amp + 1)
      if segment.length ≤ lowerInstancePrefix.length ∨
          segment.take lowerInstancePrefix.length ≠ lowerInstancePrefix then none
      else
        let digits := segment.drop lowerInstancePrefix.length
        if digits.length > 3 ∨ (digits.length > 1 ∧ digits.head? = some (wide '0')) then none
        else childSlotDigits 0 digits

-- The last segment of a path is a child's identity.
def NamesChild (path : List WChar) (n : Nat) : Prop :=
  ∃ front segment, path = front ++ wide '&' :: segment ∧ wide '&' ∉ segment ∧
    segment = lowerInstancePrefix ++ numeral n

theorem wide_zero : wide '0' = digit 0 := by decide

theorem isDigit_iff (c : WChar) : ¬(c < wide '0' ∨ c > wide '9') ↔ IsDigit c := by
  have hzero : (wide '0').toNat = 48 := by decide
  have hnine : (wide '9').toNat = 57 := by decide
  unfold IsDigit
  rw [gt_iff_lt, UInt16.lt_iff_toNat_lt, UInt16.lt_iff_toNat_lt, hzero, hnine]
  omega

theorem digit_ne_ampersand (c : WChar) (hc : IsDigit c) : c ≠ wide '&' := by
  have hamp : (wide '&').toNat = 38 := by decide
  rintro rfl
  unfold IsDigit at hc
  omega

theorem digit_of_unit (c : WChar) (hc : IsDigit c) :
    (c - wide '0').toUInt32 = UInt32.ofNat (c.toNat - 48) := by
  have hzero : (wide '0').toNat = 48 := by decide
  unfold IsDigit at hc
  have hle : wide '0' ≤ c := UInt16.le_iff_toNat_le.mpr (by omega)
  apply UInt32.toNat_inj.mp
  rw [UInt16.toNat_toUInt32, UInt16.toNat_sub_of_le _ _ hle, UInt32.toNat_ofNat', hzero]
  omega

theorem childSlotDigits_digits (n : Nat) (ds : List WChar) (hds : ∀ c ∈ ds, IsDigit c) :
    childSlotDigits (UInt32.ofNat n) ds = some (UInt32.ofNat (valueFrom n ds)) := by
  induction ds generalizing n with
  | nil => rfl
  | cons c rest ih =>
      have hc : IsDigit c := hds c (by simp)
      have hnext : UInt32.ofNat n * 10 + UInt32.ofNat (c.toNat - 48) =
          UInt32.ofNat (n * 10 + (c.toNat - 48)) := by
        rw [UInt32.ofNat_add, UInt32.ofNat_mul]
        rfl
      rw [childSlotDigits, if_neg ((isDigit_iff c).mpr hc), digit_of_unit c hc, hnext,
        ih _ (fun x hx => hds x (by simp [hx]))]
      rfl

theorem childSlotDigits_other (value : UInt32) (ds : List WChar)
    (hds : ¬∀ c ∈ ds, IsDigit c) : childSlotDigits value ds = none := by
  induction ds generalizing value with
  | nil => exact absurd (List.forall_mem_nil _) hds
  | cons c rest ih =>
      unfold childSlotDigits
      by_cases hc : IsDigit c
      · rw [if_neg ((isDigit_iff c).mpr hc)]
        apply ih
        intro hrest
        exact hds (List.forall_mem_cons.mpr ⟨hc, hrest⟩)
      · rw [if_pos (not_not.mp (fun h => hc ((isDigit_iff c).mp h)))]

theorem childSlotDigits_eq_some_iff (ds : List WChar) (v : UInt32) (hlen : ds.length ≤ 3) :
    childSlotDigits 0 ds = some v ↔ (∀ c ∈ ds, IsDigit c) ∧ valueFrom 0 ds = v.toNat := by
  by_cases hds : ∀ c ∈ ds, IsDigit c
  · have hlt : valueFrom 0 ds < 10 ^ 3 :=
      lt_of_lt_of_le (valueFrom_lt ds hds) (Nat.pow_le_pow_right (by omega) hlen)
    have hdigits : childSlotDigits 0 ds = some (UInt32.ofNat (valueFrom 0 ds)) :=
      childSlotDigits_digits 0 ds hds
    have hnat : (UInt32.ofNat (valueFrom 0 ds)).toNat = valueFrom 0 ds := by
      rw [UInt32.toNat_ofNat']
      omega
    rw [hdigits, Option.some_inj, ← UInt32.toNat_inj, hnat]
    exact (and_iff_right hds).symm
  · simp [childSlotDigits_other 0 ds hds, hds]

-- The digits accepted after the prefix are exactly the numerals up to 999.
theorem childSlotDigits_numeral_iff (ds : List WChar) (v : UInt32) (hne : ds ≠ []) :
    ¬(ds.length > 3 ∨ (ds.length > 1 ∧ ds.head? = some (wide '0'))) ∧
        childSlotDigits 0 ds = some v ↔
      ds = numeral v.toNat ∧ v.toNat ≤ 999 := by
  rw [wide_zero]
  constructor
  · rintro ⟨hshape, hvalue⟩
    rw [not_or, not_and] at hshape
    have hlen : ds.length ≤ 3 := by omega
    obtain ⟨hds, hv⟩ := (childSlotDigits_eq_some_iff ds v hlen).mp hvalue
    have hnumeral : ds = numeral v.toNat := by
      rw [← hv, numeral_valueFrom ds hne hds hshape.2]
    refine ⟨hnumeral, ?_⟩
    rw [hnumeral, numeral_length_le_iff _ _ (by omega)] at hlen
    omega
  · rintro ⟨rfl, hv⟩
    have hlen : (numeral v.toNat).length ≤ 3 :=
      (numeral_length_le_iff _ _ (by omega)).mpr (by omega)
    refine ⟨?_, ?_⟩
    · rw [not_or, not_and]
      refine ⟨by omega, fun hlong => ?_⟩
      apply numeral_head_ne_zero
      -- a single digit is not longer than one
      by_contra hzero
      have hone : (numeral v.toNat).length ≤ 1 :=
        (numeral_length_le_iff _ _ (by omega)).mpr (by omega)
      omega
    · exact (childSlotDigits_eq_some_iff _ v hlen).mpr
        ⟨isDigit_of_mem_numeral _, valueFrom_numeral _⟩

theorem ampersand_not_mem_identity (n : Nat) :
    wide '&' ∉ lowerInstancePrefix ++ numeral n := by
  intro hmem
  rcases List.mem_append.mp hmem with hlead | hnumeral
  · have hnot : wide '&' ∉ lowerInstancePrefix := by decide
    exact hnot hlead
  · exact digit_ne_ampersand _ (isDigit_of_mem_numeral n _ hnumeral) rfl

-- What the parser does with the segment after the last separator.
theorem virtualSc26ChildSlot_segment (front segment : List WChar) (v : UInt32)
    (hsegment : wide '&' ∉ segment) :
    virtualSc26ChildSlot (front ++ wide '&' :: segment) = some v ↔
      segment = lowerInstancePrefix ++ numeral v.toNat ∧ v.toNat ≤ 999 := by
  have hdrop : (front ++ wide '&' :: segment).drop (front.length + 1) = segment := by
    rw [← List.drop_drop, List.drop_left]
    rfl
  unfold virtualSc26ChildSlot
  rw [rfind_append_cons front segment _ hsegment]
  simp only [hdrop]
  by_cases hlead : segment.length ≤ lowerInstancePrefix.length ∨
      segment.take lowerInstancePrefix.length ≠ lowerInstancePrefix
  · rw [if_pos hlead]
    refine iff_of_false (by simp) ?_
    rintro ⟨rfl, -⟩
    have hpos := List.length_pos_iff.mpr (numeral_ne_nil v.toNat)
    rcases hlead with hlen | htake
    · rw [List.length_append] at hlen
      omega
    · exact htake (List.take_left' rfl)
  · rw [if_neg hlead]
    rw [not_or, not_not] at hlead
    have hsplit : segment = lowerInstancePrefix ++ segment.drop lowerInstancePrefix.length := by
      calc segment = segment.take lowerInstancePrefix.length ++
            segment.drop lowerInstancePrefix.length := (List.take_append_drop _ _).symm
        _ = _ := by rw [hlead.2]
    have hne : segment.drop lowerInstancePrefix.length ≠ [] := by
      intro hnil
      have hle := List.drop_eq_nil_iff.mp hnil
      exact hlead.1 hle
    have hiff := childSlotDigits_numeral_iff (segment.drop lowerInstancePrefix.length) v hne
    have hsame : segment = lowerInstancePrefix ++ numeral v.toNat ↔
        segment.drop lowerInstancePrefix.length = numeral v.toNat := by
      constructor
      · intro h
        rw [h, List.drop_left' rfl]
      · intro h
        rw [hsplit, h]
    rw [hsame, ← hiff]
    by_cases hshape : (segment.drop lowerInstancePrefix.length).length > 3 ∨
        ((segment.drop lowerInstancePrefix.length).length > 1 ∧
          (segment.drop lowerInstancePrefix.length).head? = some (wide '0'))
    · simp only [hshape, if_true, not_true, false_and]
      simp
    · simp only [hshape, if_false, not_false_eq_true, true_and]

theorem virtualSc26ChildSlot_eq_some_iff (path : List WChar) (v : UInt32) :
    virtualSc26ChildSlot path = some v ↔ NamesChild path v.toNat ∧ v.toNat ≤ 999 := by
  constructor
  · intro h
    cases hfind : rfind path (wide '&') with
    | none =>
        unfold virtualSc26ChildSlot at h
        rw [hfind] at h
        cases h
    | some amp =>
        obtain ⟨front, segment, rfl, hsegment, -⟩ := (rfind_eq_some_iff _ _ _).mp hfind
        obtain ⟨heq, hle⟩ := (virtualSc26ChildSlot_segment front segment v hsegment).mp h
        exact ⟨⟨front, segment, rfl, hsegment, heq⟩, hle⟩
  · rintro ⟨⟨front, segment, rfl, hsegment, heq⟩, hle⟩
    exact (virtualSc26ChildSlot_segment front segment v hsegment).mpr ⟨heq, hle⟩

end LibVirtualGamepad
