import Mathlib.Algebra.Order.Ring.Int
import Mathlib.Data.Int.Bitwise
import Mathlib.Tactic.Common

-- Fixed-width integer types as ranges of integers, and arithmetic written once over
-- what becomes of a result: it wraps, it is refused, or it stays as it is.
namespace LibVirtualGamepad.FixedWidth

structure IntType where
  lo : Int
  hi : Int
  lo_le_hi : lo ≤ hi

namespace IntType

def int16 : IntType := ⟨-32768, 32767, by decide⟩
def uint32 : IntType := ⟨0, 4294967295, by decide⟩
def int32 : IntType := ⟨-2147483648, 2147483647, by decide⟩
def int64 : IntType := ⟨-9223372036854775808, 9223372036854775807, by decide⟩

def Fits (t : IntType) (x : Int) : Prop := t.lo ≤ x ∧ x ≤ t.hi

instance (t : IntType) (x : Int) : Decidable (t.Fits x) := inferInstanceAs (Decidable (_ ∧ _))

-- The value of the type that is congruent to `x`.
def wrap (t : IntType) (x : Int) : Int := t.lo + (x - t.lo) % (t.hi - t.lo + 1)

theorem wrap_of_fits {t : IntType} {x : Int} (h : t.Fits x) : t.wrap x = x := by
  obtain ⟨hlo, hhi⟩ := h
  rw [wrap, Int.emod_eq_of_lt (by omega) (by omega)]
  omega

end IntType

-- Where every result of an operation or a cast goes through.
abbrev Rounding (m : Type → Type) := IntType → Int → m Int

def wrapping : Rounding Id := fun t x => t.wrap x
def checked : Rounding Option := fun t x => if t.Fits x then some x else none
def exact : Rounding Id := fun _ x => x

theorem checked_of_fits {t : IntType} {x : Int} (h : t.Fits x) : checked t x = some x :=
  if_pos h

theorem checked_eq_some {t : IntType} {x v : Int} (h : checked t x = some v) :
    t.Fits x ∧ v = x := by
  unfold checked at h
  split at h
  · exact ⟨‹_›, (Option.some.inj h).symm⟩
  · cases h

theorem checked_isSome {t : IntType} {x : Int} : (checked t x).isSome ↔ t.Fits x := by
  unfold checked
  split
  · simp only [Option.isSome_some, true_iff]
    assumption
  · simp only [Option.isSome_none, Bool.false_eq_true, false_iff]
    assumption

-- A chain of checked steps is refused by the first result that does not fit.
theorem checked_bind_isSome {α : Type} {t : IntType} {x : Int} {f : Int → Option α} :
    (checked t x >>= f).isSome ↔ t.Fits x ∧ (f x).isSome := by
  unfold checked
  split
  · simp only [Option.bind_eq_bind, Option.bind_some]
    constructor
    · exact fun h => ⟨‹_›, h⟩
    · exact fun h => h.2
  · simp only [Option.bind_eq_bind, Option.bind_none, Option.isSome_none, Bool.false_eq_true,
      false_iff, not_and]
    exact fun h => absurd h ‹_›

-- A rounding that leaves alone what fits.
def Faithful (fit : Rounding Id) : Prop := ∀ t x, t.Fits x → fit t x = x

theorem faithful_wrapping : Faithful wrapping := fun _ _ => IntType.wrap_of_fits
theorem faithful_exact : Faithful exact := fun _ _ _ => rfl

-- A computation in which nothing was refused comes to the same under a faithful
-- rounding.
def Agrees {α : Type} (c : Option α) (r : Id α) : Prop := ∀ v, c = some v → r = v

section Agrees

variable {α β : Type} {fit : Rounding Id}

theorem agrees_pure (v : α) : Agrees (pure v) (pure v) := fun _ h => Option.some.inj h

theorem agrees_fit (h : Faithful fit) (t : IntType) (x : Int) :
    Agrees (checked t x) (fit t x) := by
  intro v hv
  obtain ⟨hfits, rfl⟩ := checked_eq_some hv
  exact h t v hfits

theorem agrees_bind {c : Option α} {r : Id α} {f : α → Option β} {g : α → Id β}
    (h : Agrees c r) (hf : ∀ v, Agrees (f v) (g v)) : Agrees (c >>= f) (r >>= g) := by
  intro v hv
  obtain ⟨u, hu, hfu⟩ := Option.bind_eq_some_iff.1 hv
  have hr : r = u := h u hu
  subst hr
  exact hf _ v hfu

theorem agrees_ite (p : Prop) [Decidable p] {c c' : Option α} {r r' : Id α}
    (h : Agrees c r) (h' : Agrees c' r') : Agrees (if p then c else c') (if p then r else r') := by
  split
  · exact h
  · exact h'

end Agrees

-- Division truncates toward zero; against a bound it behaves as the line it follows.
section Division

variable {a b c : Int}

theorem natAbs_tdiv_le (a c : Int) : (a.tdiv c).natAbs ≤ a.natAbs :=
  Int.natAbs_tdiv_le_natAbs a c

-- A fraction of a span is no longer than the span.
theorem natAbs_fraction_le (a : Int) (hb : 0 ≤ b) (hbc : b ≤ c) :
    ((a * b).tdiv c).natAbs ≤ a.natAbs := by
  rw [Int.natAbs_tdiv, Int.natAbs_mul]
  apply Nat.div_le_of_le_mul
  rw [Nat.mul_comm]
  exact Nat.mul_le_mul_right _ (by omega)

theorem tdiv_lt_iff (ha : 0 ≤ a) (hc : 0 < c) (n : Int) : a.tdiv c < n ↔ a < n * c := by
  rw [Int.tdiv_eq_ediv_of_nonneg ha]
  exact Int.ediv_lt_iff_lt_mul hc

theorem lt_tdiv_iff (ha : a ≤ 0) (hc : 0 < c) (n : Int) : -n < a.tdiv c ↔ -a < n * c := by
  have hneg : (-a).tdiv c < n ↔ -a < n * c := tdiv_lt_iff (by omega) hc n
  rw [Int.neg_tdiv] at hneg
  rw [← hneg]
  omega

end Division

end LibVirtualGamepad.FixedWidth
