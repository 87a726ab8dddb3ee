import Mathlib.Algebra.Order.Ring.Int
import Mathlib.Data.Int.Bitwise
import Mathlib.Tactic.Common
import Mathlib.Data.List.Basic
import Mathlib.Data.List.Induction

namespace LibVirtualGamepad.WideString

-- A code unit of a wide string.
abbrev WChar := UInt16

-- A wide character literal and a wide string literal, without its terminator.
def wide (c : Char) : WChar := c.toNat.toUInt16
def literal (s : String) : List WChar := s.toList.map wide

def nul : WChar := 0

-- The index of the last occurrence.
def rfind : List WChar → WChar → Option Nat
  | [], _ => none
  | x :: rest, c =>
      match rfind rest c with
      | some i => some (i + 1)
      | none => if x = c then some 0 else none

theorem rfind_eq_none_iff (s : List WChar) (c : WChar) : rfind s c = none ↔ c ∉ s := by
  induction s with
  | nil => simp [rfind]
  | cons x rest ih =>
      unfold rfind
      cases hrest : rfind rest c with
      | some i =>
          have hmem : c ∈ rest := by
            by_contra hnot
            rw [ih.mpr hnot] at hrest
            cases hrest
          simp [hmem]
      | none =>
          have hnot : c ∉ rest := ih.mp hrest
          by_cases hx : x = c
          · simp [hx]
          · have hne : c ≠ x := fun h => hx h.symm
            simp [hx, hnot, hne]

theorem rfind_append_cons (front back : List WChar) (c : WChar) (hback : c ∉ back) :
    rfind (front ++ c :: back) c = some front.length := by
  induction front with
  | nil => simp [rfind, (rfind_eq_none_iff back c).mpr hback]
  | cons x rest ih => simp [rfind, ih]

theorem rfind_eq_some_iff (s : List WChar) (c : WChar) (i : Nat) :
    rfind s c = some i ↔
      ∃ front back, s = front ++ c :: back ∧ c ∉ back ∧ front.length = i := by
  constructor
  · intro h
    induction s generalizing i with
    | nil => cases h
    | cons x rest ih =>
        unfold rfind at h
        cases hrest : rfind rest c with
        | some j =>
            rw [hrest] at h
            obtain ⟨front, back, heq, hback, hlen⟩ := ih j hrest
            refine ⟨x :: front, back, by rw [heq]; rfl, hback, ?_⟩
            simpa [hlen] using h
        | none =>
            rw [hrest] at h
            have hback : c ∉ rest := (rfind_eq_none_iff rest c).mp hrest
            by_cases hx : x = c
            · refine ⟨[], rest, by rw [hx]; rfl, hback, ?_⟩
              simpa [hx] using h
            · simp [hx] at h
  · rintro ⟨front, back, rfl, hback, rfl⟩
    exact rfind_append_cons front back c hback

-- A pointer into an allocation is what the allocation holds from there on. A
-- function that reads past its end has no result.

def wcslen : List WChar → Option Nat
  | [] => none
  | c :: rest => if c = nul then some 0 else (wcslen rest).map (· + 1)

-- The pointer to the last occurrence before the terminator, if there is one.
def wcsrchr : List WChar → WChar → Option (Option (List WChar))
  | [], _ => none
  | x :: rest, c =>
      if x = nul then some (if c = nul then some (x :: rest) else none)
      else
        match wcsrchr rest c with
        | none => none
        | some (some found) => some (some found)
        | some none => some (if x = c then some (x :: rest) else none)

-- How a locale folds case. Only the terminator folds to the terminator.
structure CaseFold where
  fold : WChar → WChar
  nul_iff : ∀ c, fold c = nul ↔ c = nul

-- The locale a program starts in folds the letters A to Z and nothing else.
def foldAscii (c : WChar) : WChar := if 65 ≤ c ∧ c ≤ 90 then c + 32 else c

theorem foldAscii_nul_iff (c : WChar) : foldAscii c = nul ↔ c = nul := by
  unfold foldAscii nul
  split
  · rename_i h
    have hle := UInt16.le_iff_toNat_le.mp h.1
    have hge := UInt16.le_iff_toNat_le.mp h.2
    have hsum : (c + 32).toNat = c.toNat + 32 := by
      rw [UInt16.toNat_add]
      exact Nat.mod_eq_of_lt (by simp at hge ⊢; omega)
    simp only [← UInt16.toNat_inj, hsum]
    simp at hle ⊢
    omega
  · exact Iff.rfl

def ascii : CaseFold := ⟨foldAscii, foldAscii_nul_iff⟩

-- Whether two strings compare equal when case is ignored. The comparison stops
-- at the first difference or at the terminator.
def wcsicmpEqual (locale : CaseFold) : List WChar → List WChar → Option Bool
  | x :: xs, y :: ys =>
      if locale.fold x ≠ locale.fold y then some false
      else if x = nul then some true
      else wcsicmpEqual locale xs ys
  | _, _ => none

theorem wcslen_terminated (s rest : List WChar) (hs : nul ∉ s) :
    wcslen (s ++ nul :: rest) = some s.length := by
  induction s with
  | nil => simp [wcslen]
  | cons x s ih =>
      rw [List.mem_cons, not_or] at hs
      have hx : x ≠ nul := fun h => hs.1 h.symm
      simp [wcslen, hx, ih hs.2]

theorem wcsrchr_absent (s rest : List WChar) (c : WChar) (hs : nul ∉ s) (hc : c ≠ nul)
    (hnot : c ∉ s) : wcsrchr (s ++ nul :: rest) c = some none := by
  induction s with
  | nil => simp [wcsrchr, hc]
  | cons x s ih =>
      rw [List.mem_cons, not_or] at hs hnot
      have hx : x ≠ nul := fun h => hs.1 h.symm
      have hxc : x ≠ c := fun h => hnot.1 h.symm
      simp [wcsrchr, hx, hxc, ih hs.2 hnot.2]

theorem wcsrchr_last (front back rest : List WChar) (c : WChar) (hfront : nul ∉ front)
    (hback : nul ∉ back) (hc : c ≠ nul) (hlast : c ∉ back) :
    wcsrchr (front ++ c :: back ++ nul :: rest) c = some (some (c :: back ++ nul :: rest)) := by
  induction front with
  | nil =>
      have habsent := wcsrchr_absent back rest c hback hc hlast
      simp [wcsrchr, hc, habsent]
  | cons x front ih =>
      rw [List.mem_cons, not_or] at hfront
      have hx : x ≠ nul := fun h => hfront.1 h.symm
      have ih' := ih hfront.2
      simp only [List.append_assoc, List.cons_append] at ih' ⊢
      simp [wcsrchr, hx, ih']

theorem wcsicmpEqual_terminated (locale : CaseFold) (s t sRest tRest : List WChar)
    (hs : nul ∉ s) (ht : nul ∉ t) :
    wcsicmpEqual locale (s ++ nul :: sRest) (t ++ nul :: tRest) =
      some (decide (s.map locale.fold = t.map locale.fold)) := by
  have hfold : locale.fold nul = nul := (locale.nul_iff nul).mpr rfl
  induction s generalizing t with
  | nil =>
      cases t with
      | nil => simp [wcsicmpEqual]
      | cons y t =>
          rw [List.mem_cons, not_or] at ht
          have hy : locale.fold y ≠ nul := fun h => ht.1 ((locale.nul_iff y).mp h).symm
          simp [wcsicmpEqual, hfold, hy.symm]
  | cons x s ih =>
      rw [List.mem_cons, not_or] at hs
      have hx : x ≠ nul := fun h => hs.1 h.symm
      cases t with
      | nil =>
          have hxf : locale.fold x ≠ nul := fun h => hx ((locale.nul_iff x).mp h)
          simp [wcsicmpEqual, hfold, hxf]
      | cons y t =>
          rw [List.mem_cons, not_or] at ht
          by_cases hxy : locale.fold x = locale.fold y
          · simp [wcsicmpEqual, hxy, hx, ih t hs.2 ht.2]
          · simp [wcsicmpEqual, hxy]

def digit (d : Nat) : WChar := (48 + d).toUInt16

-- The decimal numeral, without leading zeros.
def numeral (n : Nat) : List WChar := (Nat.toDigits 10 n).map wide

def IsDigit (c : WChar) : Prop := 48 ≤ c.toNat ∧ c.toNat ≤ 57

-- The value of a digit string read from the left.
def valueFrom (value : Nat) (digits : List WChar) : Nat :=
  digits.foldl (fun acc c => acc * 10 + (c.toNat - 48)) value

theorem digit_toNat (d : Nat) (hd : d < 10) : (digit d).toNat = 48 + d := by
  unfold digit
  simp only [Nat.toUInt16_eq, UInt16.toNat_ofNat']
  omega

theorem isDigit_digit (d : Nat) (hd : d < 10) : IsDigit (digit d) := by
  unfold IsDigit
  rw [digit_toNat d hd]
  omega

theorem digit_of_isDigit (c : WChar) (hc : IsDigit c) : digit (c.toNat - 48) = c := by
  unfold IsDigit at hc
  apply UInt16.toNat_inj.mp
  rw [digit_toNat _ (by omega)]
  omega

theorem wide_digitChar (d : Nat) (hd : d < 10) : wide d.digitChar = digit d := by
  have hall : ∀ d < 10, wide (Nat.digitChar d) = digit d := by decide
  exact hall d hd

theorem numeral_of_lt (n : Nat) (hn : n < 10) : numeral n = [digit n] := by
  unfold numeral
  rw [Nat.toDigits_of_lt_base hn]
  simp [wide_digitChar n hn]

theorem numeral_of_le (n : Nat) (hn : 10 ≤ n) :
    numeral n = numeral (n / 10) ++ [digit (n % 10)] := by
  unfold numeral
  rw [Nat.toDigits_of_base_le (by omega) hn]
  simp [wide_digitChar (n % 10) (by omega)]

theorem numeral_ne_nil (n : Nat) : numeral n ≠ [] := by
  simp [numeral]

theorem numeral_length_le_iff (n k : Nat) (hk : 0 < k) :
    (numeral n).length ≤ k ↔ n < 10 ^ k := by
  unfold numeral
  rw [List.length_map]
  exact Nat.length_toDigits_le_iff (by omega) hk

theorem isDigit_of_mem_numeral (n : Nat) : ∀ c ∈ numeral n, IsDigit c := by
  induction n using Nat.strong_induction_on with
  | _ n ih =>
      by_cases hn : n < 10
      · simp [numeral_of_lt n hn, isDigit_digit n hn]
      · rw [numeral_of_le n (by omega)]
        intro c hc
        rcases List.mem_append.mp hc with hinit | hlast
        · exact ih (n / 10) (by omega) c hinit
        · rw [List.mem_singleton.mp hlast]
          exact isDigit_digit _ (by omega)

theorem valueFrom_append (value : Nat) (front : List WChar) (c : WChar) :
    valueFrom value (front ++ [c]) = valueFrom value front * 10 + (c.toNat - 48) := by
  simp [valueFrom, List.foldl_append]

theorem valueFrom_numeral (n : Nat) : valueFrom 0 (numeral n) = n := by
  induction n using Nat.strong_induction_on with
  | _ n ih =>
      by_cases hn : n < 10
      · have hvalue : valueFrom 0 [digit n] = 0 * 10 + ((digit n).toNat - 48) := rfl
        rw [numeral_of_lt n hn, hvalue, digit_toNat n hn]
        omega
      · rw [numeral_of_le n (by omega), valueFrom_append, ih (n / 10) (by omega),
          digit_toNat _ (by omega)]
        omega

-- A numeral of several digits does not start with a zero.
theorem numeral_head_ne_zero (n : Nat) (hn : 0 < n) : (numeral n).head? ≠ some (digit 0) := by
  induction n using Nat.strong_induction_on with
  | _ n ih =>
      by_cases hlt : n < 10
      · rw [numeral_of_lt n hlt]
        intro h
        have heq : digit n = digit 0 := by simpa using h
        have hnat := congrArg UInt16.toNat heq
        rw [digit_toNat n hlt, digit_toNat 0 (by omega)] at hnat
        omega
      · rw [numeral_of_le n (by omega),
          List.head?_append_of_ne_nil _ (numeral_ne_nil (n / 10))]
        exact ih (n / 10) (by omega) (by omega)

theorem valueFrom_lt (ds : List WChar) (hds : ∀ c ∈ ds, IsDigit c) :
    valueFrom 0 ds < 10 ^ ds.length := by
  induction ds using List.reverseRecOn with
  | nil => simp [valueFrom]
  | append_singleton front c ih =>
      have hc : IsDigit c := hds c (by simp)
      have hfront := ih (fun x hx => hds x (by simp [hx]))
      unfold IsDigit at hc
      rw [valueFrom_append, List.length_append, List.length_singleton, Nat.pow_succ]
      omega

-- A digit string without a leading zero is the numeral of its value.
theorem numeral_valueFrom (ds : List WChar) (hne : ds ≠ []) (hds : ∀ c ∈ ds, IsDigit c)
    (hlead : 1 < ds.length → ds.head? ≠ some (digit 0)) : numeral (valueFrom 0 ds) = ds := by
  induction ds using List.reverseRecOn with
  | nil => exact absurd rfl hne
  | append_singleton front c ih =>
      have hc : IsDigit c := hds c (by simp)
      have hdigit : c.toNat - 48 < 10 := by
        unfold IsDigit at hc
        omega
      rw [valueFrom_append]
      by_cases hfront : front = []
      · subst hfront
        have hzero : valueFrom 0 [] * 10 + (c.toNat - 48) = c.toNat - 48 := by
          simp [valueFrom]
        rw [hzero, numeral_of_lt _ hdigit, digit_of_isDigit c hc]
        rfl
      · have hlen : 0 < front.length := List.length_pos_iff.mpr hfront
        have hhead : front.head? ≠ some (digit 0) := by
          have h := hlead (by simp; omega)
          rwa [List.head?_append_of_ne_nil _ hfront] at h
        have heq := ih hfront (fun x hx => hds x (by simp [hx])) (fun _ => hhead)
        -- a zero value would be written as a single zero
        have hpos : 0 < valueFrom 0 front := by
          by_contra hzero
          have hz : valueFrom 0 front = 0 := by omega
          rw [hz, numeral_of_lt 0 (by omega)] at heq
          rw [← heq] at hhead
          exact hhead rfl
        rw [numeral_of_le _ (by omega)]
        have hdiv : (valueFrom 0 front * 10 + (c.toNat - 48)) / 10 = valueFrom 0 front := by
          omega
        have hmod : (valueFrom 0 front * 10 + (c.toNat - 48)) % 10 = c.toNat - 48 := by
          omega
        rw [hdiv, hmod, heq, digit_of_isDigit c hc]

end LibVirtualGamepad.WideString
