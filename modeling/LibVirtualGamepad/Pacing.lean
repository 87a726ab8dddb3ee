import Mathlib.Algebra.Order.Ring.Int
import Mathlib.Data.Int.Bitwise
import Mathlib.Data.List.Induction
import Mathlib.Tactic.Common

-- Times that keep a distance: the i-th of them is at least i intervals after the first.
namespace LibVirtualGamepad.Pacing

def Spaced (first k : Nat) (times : List Nat) : Prop :=
  ∀ pre t post, times = pre ++ t :: post → first + pre.length * k ≤ t

theorem Spaced.singleton (first k : Nat) : Spaced first k [first] := by
  intro pre t post heq
  cases pre with
  | nil =>
      injection heq with heq
      simp [heq]
  | cons other rest =>
      have hlength := congrArg List.length heq
      simp only [List.length_cons, List.length_nil, List.length_append] at hlength
      omega

theorem Spaced.init {first k t : Nat} {times : List Nat} (h : Spaced first k (times ++ [t])) :
    Spaced first k times := by
  intro pre u post heq
  apply h pre u (post ++ [t])
  rw [heq, List.append_assoc, List.cons_append]

-- A new time that is far enough from the first is far enough from the others.
theorem Spaced.snoc {first k t : Nat} {times : List Nat} (h : Spaced first k times)
    (hle : first + times.length * k ≤ t) : Spaced first k (times ++ [t]) := by
  intro pre u post heq
  rcases List.append_eq_append_iff.mp heq with ⟨mid, hpre, hmid⟩ | ⟨mid, htimes, hmid⟩
  · cases mid with
    | nil =>
        injection hmid with hu
        rw [hpre, ← hu, List.append_nil]
        exact hle
    | cons other rest =>
        injection hmid with _ hnil
        exact absurd hnil.symm (by simp)
  · cases mid with
    | nil =>
        injection hmid with hu
        rw [List.append_nil] at htimes
        rw [hu, ← htimes]
        exact hle
    | cons other rest =>
        injection hmid with hu hrest
        apply h pre u rest
        rw [htimes, hu]

-- By any moment there have been few of them.
theorem Spaced.count_le {first k : Nat} {times : List Nat} (hk : 0 < k)
    (h : Spaced first k times) (t : Nat) :
    (times.filter fun u => decide (u ≤ t)).length ≤ 1 + (t - first) / k := by
  induction times using List.reverseRecOn with
  | nil => exact Nat.zero_le _
  | append_singleton times u ih =>
      rw [List.filter_append, List.length_append]
      by_cases hu : u ≤ t
      · have hle := h times u [] rfl
        have hlength : times.length ≤ (t - first) / k := by
          rw [Nat.le_div_iff_mul_le hk]
          omega
        have hfilter := List.length_filter_le (fun u => decide (u ≤ t)) times
        simp only [hu, decide_true, List.filter_cons_of_pos, List.filter_nil, List.length_cons,
          List.length_nil]
        omega
      · have hbefore := ih h.init
        simp only [hu, decide_false, Bool.false_eq_true, not_false_eq_true,
          List.filter_cons_of_neg, List.filter_nil, List.length_nil]
        omega

end LibVirtualGamepad.Pacing
