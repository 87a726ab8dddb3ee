import Mathlib.Algebra.Order.Ring.Int
import Mathlib.Data.Int.Bitwise
import Mathlib.Logic.ExistsUnique
import Mathlib.Logic.Function.Basic
import Mathlib.Tactic.Common

-- Resources that are taken by handles, at most one a handle.
namespace LibVirtualGamepad.Ownership

variable {Handle Resource : Type} {holds : Handle → Option Resource} {taken : Resource → Prop}
  {handle : Handle} {resource : Resource}

-- A resource is taken when a handle holds it, and then it is the only one.
structure Assigned (holds : Handle → Option Resource) (taken : Resource → Prop) : Prop where
  taken_iff : ∀ resource, taken resource ↔ ∃ handle, holds handle = some resource
  single : ∀ handle other resource, holds handle = some resource → holds other = some resource →
    handle = other

theorem assigned_none (h : ∀ resource, ¬taken resource) :
    Assigned (fun _ : Handle => none) taken := by
  constructor
  case taken_iff =>
    intro resource
    simp only [h resource, reduceCtorEq, exists_false]
  case single =>
    intro handle other resource h
    cases h

theorem Assigned.existsUnique (h : Assigned holds taken) (ht : taken resource) :
    ∃! handle, holds handle = some resource := by
  obtain ⟨handle, hholds⟩ := (h.taken_iff resource).1 ht
  exact ⟨handle, hholds, fun other hother => h.single other handle resource hother hholds⟩

section Update

variable [DecidableEq Handle]

-- A handle that holds nothing takes a free resource.
theorem Assigned.acquire (h : Assigned holds taken) (hnone : holds handle = none)
    (hfree : ¬taken resource) :
    Assigned (Function.update holds handle (some resource)) fun other =>
      other = resource ∨ taken other := by
  have hnew (other : Handle) : holds other ≠ some resource := by
    intro hother
    exact hfree ((h.taken_iff resource).2 ⟨other, hother⟩)
  constructor
  case taken_iff =>
    intro other
    constructor
    · rintro (rfl | htaken)
      · exact ⟨handle, Function.update_self ..⟩
      · obtain ⟨holder, hholder⟩ := (h.taken_iff other).1 htaken
        have hne : holder ≠ handle := by
          rintro rfl
          rw [hnone] at hholder
          cases hholder
        exact ⟨holder, by rw [Function.update_of_ne hne, hholder]⟩
    · rintro ⟨holder, hholder⟩
      by_cases heq : holder = handle
      · rw [heq, Function.update_self] at hholder
        exact .inl (Option.some.inj hholder).symm
      · rw [Function.update_of_ne heq] at hholder
        exact .inr ((h.taken_iff other).2 ⟨holder, hholder⟩)
  case single =>
    intro first second other hfirst hsecond
    by_cases hf : first = handle <;> by_cases hs : second = handle
    · rw [hf, hs]
    · rw [hf, Function.update_self] at hfirst
      rw [Function.update_of_ne hs, ← Option.some.inj hfirst] at hsecond
      exact absurd hsecond (hnew second)
    · rw [hs, Function.update_self] at hsecond
      rw [Function.update_of_ne hf, ← Option.some.inj hsecond] at hfirst
      exact absurd hfirst (hnew first)
    · rw [Function.update_of_ne hf] at hfirst
      rw [Function.update_of_ne hs] at hsecond
      exact h.single first second other hfirst hsecond

-- A handle gives back what it holds.
theorem Assigned.release (h : Assigned holds taken) (hsome : holds handle = some resource) :
    Assigned (Function.update holds handle none) fun other => other ≠ resource ∧ taken other := by
  constructor
  case taken_iff =>
    intro other
    constructor
    · rintro ⟨hne, htaken⟩
      obtain ⟨holder, hholder⟩ := (h.taken_iff other).1 htaken
      have hother : holder ≠ handle := by
        rintro rfl
        rw [hsome] at hholder
        exact hne (Option.some.inj hholder).symm
      exact ⟨holder, by rw [Function.update_of_ne hother, hholder]⟩
    · rintro ⟨holder, hholder⟩
      have hother : holder ≠ handle := by
        rintro rfl
        rw [Function.update_self] at hholder
        cases hholder
      rw [Function.update_of_ne hother] at hholder
      refine ⟨?_, (h.taken_iff other).2 ⟨holder, hholder⟩⟩
      rintro rfl
      exact hother (h.single holder handle other hholder hsome)
  case single =>
    intro first second other hfirst hsecond
    have hkept {holder : Handle} (hheld : Function.update holds handle none holder = some other) :
        holds holder = some other := by
      by_cases heq : holder = handle
      · rw [heq, Function.update_self] at hheld
        cases hheld
      · rwa [Function.update_of_ne heq] at hheld
    exact h.single first second other (hkept hfirst) (hkept hsecond)

-- A handle that moves on to another resource leaves the one it held without a holder.
theorem Assigned.abandon (h : Assigned holds taken) {next : Resource}
    (hsome : holds handle = some resource) (hne : next ≠ resource) :
    ∀ other, Function.update holds handle (some next) other ≠ some resource := by
  intro other hother
  by_cases heq : other = handle
  · rw [heq, Function.update_self] at hother
    exact hne (Option.some.inj hother)
  · rw [Function.update_of_ne heq] at hother
    exact heq (h.single other handle resource hother hsome)

end Update

end LibVirtualGamepad.Ownership
