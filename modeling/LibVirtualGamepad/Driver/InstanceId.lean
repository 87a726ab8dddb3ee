import LibVirtualGamepad.HidPath

namespace LibVirtualGamepad

open WideString

def instancePrefix : List WChar := literal "VibeshineGamepad"

-- The wide characters of a slot's instance id buffer.
def instanceIdCapacity : Nat := 32

-- The units written, the terminator among them.
def instanceIdUnits (index : UInt32) : List WChar :=
  instancePrefix ++
    (if index ≥ 10 then [wide '0' + ((index / 10) % 10).toUInt16] else []) ++
    [wide '0' + (index % 10).toUInt16, nul]

-- The buffer after the call. One that is too small for two digits and the
-- terminator is left with an empty string.
def formatInstanceId (out : List WChar) (capacity : Nat) (index : UInt32) : List WChar :=
  if capacity < instancePrefix.length + 4 then
    if capacity > 0 then out.set 0 nul else out
  else instanceIdUnits index ++ out.drop (instanceIdUnits index).length

-- The string a buffer holds.
def wideText (buffer : List WChar) : List WChar := buffer.takeWhile (· ≠ nul)

theorem wideText_terminated (s rest : List WChar) (hs : nul ∉ s) :
    wideText (s ++ nul :: rest) = s := by
  unfold wideText
  rw [List.takeWhile_append_of_pos]
  · simp
  · intro c hc
    have hne : c ≠ nul := fun h => hs (h ▸ hc)
    simpa using hne

theorem unit_of_digit (d : UInt32) (hd : d.toNat < 10) :
    wide '0' + d.toUInt16 = digit d.toNat := by
  have hzero : (wide '0').toNat = 48 := by decide
  apply UInt16.toNat_inj.mp
  rw [digit_toNat _ hd, UInt16.toNat_add, hzero, UInt32.toNat_toUInt16]
  omega

-- Two digits are all it writes.
theorem instanceIdUnits_eq (index : UInt32) (hindex : index.toNat < 100) :
    instanceIdUnits index = instancePrefix ++ numeral index.toNat ++ [nul] := by
  have hlast : (index % 10).toNat = index.toNat % 10 := by
    rw [UInt32.toNat_mod]
    rfl
  have htens : (index / 10 % 10).toNat = index.toNat / 10 % 10 := by
    rw [UInt32.toNat_mod, UInt32.toNat_div]
    rfl
  have hlastUnit := unit_of_digit (index % 10) (by omega)
  have htensUnit := unit_of_digit (index / 10 % 10) (by omega)
  have hten : (10 : UInt32).toNat = 10 := rfl
  unfold instanceIdUnits
  rw [hlastUnit, htensUnit, hlast, htens]
  by_cases hlarge : index ≥ 10
  · have hle := UInt32.le_iff_toNat_le.mp hlarge
    have htensValue : index.toNat / 10 % 10 = index.toNat / 10 := by omega
    rw [if_pos hlarge, numeral_of_le _ (by omega), numeral_of_lt (index.toNat / 10) (by omega),
      htensValue]
    simp
  · have hlt : index.toNat < 10 := by
      by_contra hnot
      exact hlarge (UInt32.le_iff_toNat_le.mpr (by omega))
    have hlastValue : index.toNat % 10 = index.toNat := by omega
    rw [if_neg hlarge, numeral_of_lt _ hlt, hlastValue]
    simp

theorem nul_not_mem_instanceId (n : Nat) : nul ∉ instancePrefix ++ numeral n := by
  intro hmem
  rcases List.mem_append.mp hmem with hlead | hnumeral
  · have hnot : nul ∉ instancePrefix := by decide
    exact hnot hlead
  · have hdigit := isDigit_of_mem_numeral n _ hnumeral
    have hzero : nul.toNat = 0 := rfl
    unfold IsDigit at hdigit
    omega

-- What the driver's buffer holds, whatever it held before.
theorem formatInstanceId_eq (out : List WChar) (index : UInt32) (hindex : index.toNat < 100) :
    ∃ rest, formatInstanceId out instanceIdCapacity index =
      (instancePrefix ++ numeral index.toNat) ++ nul :: rest := by
  have hfits : ¬instanceIdCapacity < instancePrefix.length + 4 := by decide
  unfold formatInstanceId
  rw [if_neg hfits, instanceIdUnits_eq index hindex]
  refine ⟨out.drop (instancePrefix ++ numeral index.toNat ++ [nul]).length, ?_⟩
  simp

theorem wideText_formatInstanceId (out : List WChar) (index : UInt32)
    (hindex : index.toNat < 100) :
    wideText (formatInstanceId out instanceIdCapacity index) =
      instancePrefix ++ numeral index.toNat := by
  obtain ⟨rest, heq⟩ := formatInstanceId_eq out index hindex
  rw [heq]
  exact wideText_terminated _ rest (nul_not_mem_instanceId _)

theorem foldAscii_of_isDigit (c : WChar) (hc : IsDigit c) : foldAscii c = c := by
  unfold foldAscii
  rw [if_neg]
  rintro ⟨hle, -⟩
  have hnat := UInt16.le_iff_toNat_le.mp hle
  have hA : (65 : UInt16).toNat = 65 := rfl
  unfold IsDigit at hc
  omega

theorem foldAscii_instanceId (n : Nat) :
    (instancePrefix ++ numeral n).map foldAscii = lowerInstancePrefix ++ numeral n := by
  have hlead : instancePrefix.map foldAscii = lowerInstancePrefix := by decide
  have hnumeral : (numeral n).map foldAscii = numeral n := by
    calc (numeral n).map foldAscii = (numeral n).map id :=
          List.map_congr_left fun c hc => foldAscii_of_isDigit c (isDigit_of_mem_numeral n c hc)
      _ = numeral n := List.map_id _
  rw [List.map_append, hlead, hnumeral]

-- The parser accepts exactly the identities of the slots up to 999, and reads
-- back the identity the driver stamps.
theorem child_path_grammar :
    (∀ (path : List WChar) (n : UInt32), virtualSc26ChildSlot path = some n ↔
      ∃ front segment, path = front ++ wide '&' :: segment ∧ wide '&' ∉ segment ∧
        segment = literal "vibeshinegamepad" ++ numeral n.toNat ∧ n.toNat ≤ 999) ∧
    (∀ path : List WChar,
      (¬∃ n ≤ 999, ∃ front segment, path = front ++ wide '&' :: segment ∧
        wide '&' ∉ segment ∧ segment = literal "vibeshinegamepad" ++ numeral n) →
      virtualSc26ChildSlot path = none) ∧
    ∀ (front out : List WChar) (index : UInt32), index.toNat < 100 →
      virtualSc26ChildSlot (front ++ wide '&' ::
        (wideText (formatInstanceId out instanceIdCapacity index)).map foldAscii) =
          some index := by
  refine ⟨?_, ?_, ?_⟩
  · intro path n
    rw [virtualSc26ChildSlot_eq_some_iff]
    constructor
    · rintro ⟨⟨front, segment, hpath, hsegment, heq⟩, hle⟩
      exact ⟨front, segment, hpath, hsegment, heq, hle⟩
    · rintro ⟨front, segment, hpath, hsegment, heq, hle⟩
      exact ⟨⟨front, segment, hpath, hsegment, heq⟩, hle⟩
  · intro path hnone
    cases h : virtualSc26ChildSlot path with
    | none => rfl
    | some n =>
        obtain ⟨hnames, hle⟩ := (virtualSc26ChildSlot_eq_some_iff path n).mp h
        exact absurd ⟨n.toNat, hle, hnames⟩ hnone
  · intro front out index hindex
    rw [wideText_formatInstanceId out index hindex, foldAscii_instanceId,
      virtualSc26ChildSlot_segment _ _ _ (ampersand_not_mem_identity _)]
    exact ⟨rfl, by omega⟩

theorem child_path_grammar_seven :
    virtualSc26ChildSlot (literal "vhf&0" ++ wide '&' ::
      (wideText (formatInstanceId [] instanceIdCapacity 7)).map foldAscii) = some 7 :=
  child_path_grammar.2.2 (literal "vhf&0") [] 7 (by decide)

end LibVirtualGamepad
