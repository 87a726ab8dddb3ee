import LibVirtualGamepad.PidFf
import Mathlib.Algebra.Order.Group.Abs
import Mathlib.Algebra.Order.Group.Int
import Mathlib.Algebra.Order.Group.Unbundled.Int

-- The envelope in unbounded integers, and when the driver's arithmetic is that.
namespace LibVirtualGamepad

open FixedWidth IntType

namespace PidEffect

-- The play time behind the start delay.
def activeMs (effect : PidEffect) : Int := effect.elapsedMs.toNat - effect.startDelayMs.toNat

def exactRamp (effect : PidEffect) : Int :=
  let start := effect.rampStart.toInt
  let span : Int := effect.durationMs.toNat
  if effect.durationMs = 0 then start
  else start + ((effect.rampEnd.toInt - start) * min effect.activeMs span).tdiv span

def exactStrength (effect : PidEffect) : Option (Int × Bool) :=
  match effect.type with
  | .constantForce => some (|effect.constantMagnitude.toInt|, false)
  | .ramp => some (|effect.exactRamp|, false)
  | .square | .sine | .triangle | .sawtoothUp | .sawtoothDown =>
    some (effect.periodicMagnitude.toNat, true)
  | _ => none

-- The last milliseconds of the duration, over which the fade goes.
def fadeSpan (effect : PidEffect) : Int :=
  min effect.durationMs.toNat effect.envelopeFadeMs.toNat

def intoFade (effect : PidEffect) : Int :=
  effect.activeMs - (effect.durationMs.toNat - effect.fadeSpan)

def Fading (effect : PidEffect) : Prop :=
  effect.durationMs ≠ 0 ∧ effect.envelopeFadeMs ≠ 0 ∧ 0 ≤ effect.intoFade

instance (effect : PidEffect) : Decidable effect.Fading :=
  inferInstanceAs (Decidable (_ ∧ _ ∧ _))

def exactAttack (effect : PidEffect) (magnitude : Int) : Int :=
  let level : Int := effect.envelopeAttackLevel.toNat
  let span : Int := effect.envelopeAttackMs.toNat
  if effect.activeMs < span then level + ((magnitude - level) * effect.activeMs).tdiv span
  else magnitude

def exactFade (effect : PidEffect) (magnitude : Int) : Int :=
  magnitude + (((effect.envelopeFadeLevel.toNat : Int) - magnitude) * effect.intoFade).tdiv
    effect.fadeSpan

-- The piecewise-linear envelope.
def exactEnvelope (effect : PidEffect) (magnitude : Int) : Int :=
  let attacked := effect.exactAttack magnitude
  let result := if effect.Fading then min attacked (effect.exactFade magnitude) else attacked
  max 0 (min 10000 result)

def exactEnvelopeValue (effect : PidEffect) : Option (Int × Bool) :=
  if effect.sounding then
    effect.exactStrength.map fun strength => (effect.exactEnvelope strength.1, strength.2)
  else none

-- What rumble() computes for the effect is the exact value, and nothing it computes
-- on the way leaves its type.
structure EnvelopeExact (effect : PidEffect) (deviceGain : UInt8) : Prop where
  value : Id.run (effect.envelopeValue wrapping) = effect.exactEnvelopeValue
  inRange : (effect.contribution checked deviceGain).isSome

-- The end of the fade line, `intoFade` milliseconds on, stays in 32 bits.
structure FadeFits (effect : PidEffect) (magnitude : Int) : Prop where
  above : magnitude * effect.fadeSpan +
      ((effect.envelopeFadeLevel.toNat : Int) - magnitude) * effect.intoFade <
    2147483648 * effect.fadeSpan
  below : (magnitude - (effect.envelopeFadeLevel.toNat : Int)) * effect.intoFade <
    2147483649 * effect.fadeSpan

-- A fade that is evaluated has such a line.
def FadeInRange (effect : PidEffect) : Prop :=
  effect.sounding → effect.Fading →
    ∀ strength ∈ effect.exactStrength, effect.FadeFits strength.1

end PidEffect

theorem clampMagnitude_eq (value : Int) : clampMagnitude value = max 0 (min 10000 value) := by
  unfold clampMagnitude pidNominalMax
  split
  · omega
  · split <;> omega

theorem absolute_eq (value : Int) : absolute value = |value| := by
  unfold absolute
  split
  · rw [abs_of_neg (by omega)]
  · rw [abs_of_nonneg (by omega)]

section Ranges

theorem fits_int32 {x : Int} (h : x.natAbs < 2147483648) : int32.Fits x := by
  constructor <;> simp only [int32] <;> omega

theorem fits_int64 {x : Int} (h : x.natAbs < 9223372036854775808) : int64.Fits x := by
  constructor <;> simp only [int64] <;> omega

theorem fits_uint32 {x : Int} (h : 0 ≤ x) (h' : x < 4294967296) : uint32.Fits x := by
  constructor <;> simp only [uint32] <;> omega

-- A 16-bit span times a 32-bit time.
theorem product_fits {a b : Int} (ha : a.natAbs ≤ 131072) (hb : b.natAbs ≤ 4294967296) :
    int64.Fits (a * b) := by
  apply fits_int64
  rw [Int.natAbs_mul]
  have hmul := Nat.mul_le_mul ha hb
  omega

theorem quotient_fits {a b : Int} (c : Int) (ha : a.natAbs ≤ 131072)
    (hb : b.natAbs ≤ 4294967296) : int64.Fits ((a * b).tdiv c) := by
  apply fits_int64
  have hle := natAbs_tdiv_le (a * b) c
  rw [Int.natAbs_mul] at hle
  have hmul := Nat.mul_le_mul ha hb
  omega

end Ranges

namespace PidEffect

variable (effect : PidEffect)

section Agreement

variable {fit : Rounding Id} (hfit : Faithful fit)

include hfit

theorem attackLine_agrees (activeMs magnitude : Int) :
    Agrees (effect.attackLine checked activeMs magnitude)
      (effect.attackLine fit activeMs magnitude) := by
  unfold attackLine
  apply agrees_bind (agrees_fit hfit _ _)
  intro span
  apply agrees_bind (agrees_fit hfit _ _)
  intro product
  apply agrees_bind (agrees_fit hfit _ _)
  intro quotient
  apply agrees_bind (agrees_fit hfit _ _)
  intro offset
  exact agrees_fit hfit _ _

theorem fadeLine_agrees (activeMs magnitude : Int) :
    Agrees (effect.fadeLine checked activeMs magnitude)
      (effect.fadeLine fit activeMs magnitude) := by
  unfold fadeLine
  apply agrees_bind (agrees_fit hfit _ _)
  intro intoFade
  apply agrees_bind (agrees_fit hfit _ _)
  intro fadeSpan
  apply agrees_bind (agrees_fit hfit _ _)
  intro span
  apply agrees_bind (agrees_fit hfit _ _)
  intro product
  apply agrees_bind (agrees_fit hfit _ _)
  intro quotient
  apply agrees_bind (agrees_fit hfit _ _)
  intro offset
  exact agrees_fit hfit _ _

theorem applyEnvelope_agrees (activeMs magnitude : Int) :
    Agrees (effect.applyEnvelope checked activeMs magnitude)
      (effect.applyEnvelope fit activeMs magnitude) := by
  unfold applyEnvelope
  apply agrees_bind
  · unfold attacked
    exact agrees_ite _ (effect.attackLine_agrees hfit _ _) (agrees_pure _)
  · intro attacked
    apply agrees_bind
    · unfold faded
      apply agrees_ite _ _ (agrees_pure _)
      apply agrees_ite _ _ (agrees_pure _)
      apply agrees_bind (effect.fadeLine_agrees hfit _ _)
      intro line
      exact agrees_pure _
    · intro result
      exact agrees_pure _

theorem rampValue_agrees (activeMs : Int) :
    Agrees (effect.rampValue checked activeMs) (effect.rampValue fit activeMs) := by
  unfold rampValue
  apply agrees_ite _ _ (agrees_pure _)
  apply agrees_bind (agrees_fit hfit _ _)
  intro delta
  apply agrees_bind (agrees_fit hfit _ _)
  intro product
  apply agrees_bind (agrees_fit hfit _ _)
  intro quotient
  apply agrees_bind (agrees_fit hfit _ _)
  intro offset
  exact agrees_fit hfit _ _

theorem strength_agrees (activeMs : Int) :
    Agrees (effect.strength checked activeMs) (effect.strength fit activeMs) := by
  unfold strength
  cases effect.type
  case constantForce => exact agrees_bind (agrees_fit hfit _ _) fun _ => agrees_pure _
  case ramp =>
    apply agrees_bind (effect.rampValue_agrees hfit _)
    intro value
    exact agrees_bind (agrees_fit hfit _ _) fun _ => agrees_pure _
  all_goals exact agrees_pure _

theorem envelopeValue_agrees :
    Agrees (effect.envelopeValue checked) (effect.envelopeValue fit) := by
  unfold envelopeValue
  apply agrees_ite _ _ (agrees_pure _)
  apply agrees_bind (agrees_fit hfit _ _)
  intro activeMs
  apply agrees_bind (effect.strength_agrees hfit _)
  intro strength
  cases strength with
  | none => exact agrees_pure _
  | some strength =>
    exact agrees_bind (effect.applyEnvelope_agrees hfit _ _) fun _ => agrees_pure _

end Agreement

section Sounding

variable {effect}

theorem activeMs_nonneg (h : effect.sounding = true) : 0 ≤ effect.activeMs := by
  simp only [sounding, Bool.and_eq_true, Bool.not_eq_true', decide_eq_false_iff_not] at h
  unfold activeMs
  omega

theorem activeMs_lt : effect.activeMs < 4294967296 := by
  have hlt := effect.elapsedMs.toNat_lt
  unfold activeMs
  omega

theorem activeMs_fits (h : effect.sounding = true) : uint32.Fits effect.activeMs :=
  fits_uint32 (activeMs_nonneg h) activeMs_lt

end Sounding

section Exact

variable {effect}

theorem rampValue_exact : Id.run (effect.rampValue exact effect.activeMs) = effect.exactRamp := by
  unfold rampValue exactRamp
  by_cases hd : effect.durationMs = 0
  · simp only [hd, ne_eq, not_true_eq_false, ite_false, ite_true]
    rfl
  · have hmin : (if effect.activeMs > (effect.durationMs.toNat : Int) then
        (effect.durationMs.toNat : Int) else effect.activeMs) =
        min effect.activeMs effect.durationMs.toNat := by
      split <;> omega
    simp only [hd, ne_eq, not_false_eq_true, ite_true, ite_false, hmin]
    rfl

theorem strength_exact : Id.run (effect.strength exact effect.activeMs) = effect.exactStrength := by
  have hramp := @rampValue_exact effect
  unfold strength exactStrength
  cases effect.type
  case constantForce =>
    rw [← absolute_eq]
    rfl
  case ramp =>
    simp only [← hramp, ← absolute_eq]
    rfl
  all_goals rfl

theorem attacked_exact (h : effect.sounding = true) (magnitude : Int) :
    Id.run (effect.attacked exact effect.activeMs magnitude) = effect.exactAttack magnitude := by
  have hpos := activeMs_nonneg h
  unfold attacked exactAttack
  by_cases hlt : effect.activeMs < effect.envelopeAttackMs.toNat
  · have hne : effect.envelopeAttackMs ≠ 0 := by
      intro h0
      rw [h0, UInt16.toNat_zero] at hlt
      omega
    simp only [hlt, hne, ne_eq, not_false_eq_true, and_self, ite_true]
    rfl
  · simp only [hlt, and_false, ite_false]
    rfl

theorem fadeSpan_eq : (effect.durationMs.toNat : Int) - effect.fadeStart = effect.fadeSpan := by
  unfold fadeStart fadeSpan
  split
  · have hlt := UInt16.lt_iff_toNat_lt.1 ‹effect.durationMs > effect.envelopeFadeMs›
    omega
  · have hle := UInt16.not_lt.1 ‹¬effect.durationMs > effect.envelopeFadeMs›
    have hle := UInt16.le_iff_toNat_le.1 hle
    omega

theorem intoFade_eq : effect.activeMs - effect.fadeStart = effect.intoFade := by
  have hspan := @fadeSpan_eq effect
  unfold intoFade
  omega

theorem fadeSpan_pos (hd : effect.durationMs ≠ 0) (hf : effect.envelopeFadeMs ≠ 0) :
    0 < effect.fadeSpan := by
  have hd : effect.durationMs.toNat ≠ 0 := fun h0 => hd (UInt16.toNat_inj.1 h0)
  have hf : effect.envelopeFadeMs.toNat ≠ 0 := fun h0 => hf (UInt16.toNat_inj.1 h0)
  unfold fadeSpan
  omega

-- The test that guards the fade.
theorem fading_iff (hd : effect.durationMs ≠ 0) (hf : effect.envelopeFadeMs ≠ 0) :
    (effect.fadeStart ≤ effect.activeMs ∧ effect.durationMs.toNat - effect.fadeStart ≠ 0) ↔
      effect.Fading := by
  have hspan := @fadeSpan_eq effect
  have hpos := fadeSpan_pos hd hf
  have hinto := @intoFade_eq effect
  unfold Fading
  constructor
  · intro hguard
    exact ⟨hd, hf, by omega⟩
  · intro hfading
    have h0 := hfading.2.2
    omega

theorem faded_exact (magnitude result : Int) :
    Id.run (effect.faded exact effect.activeMs magnitude result) =
      if effect.Fading then min result (effect.exactFade magnitude) else result := by
  unfold faded
  by_cases hzero : effect.durationMs ≠ 0 ∧ effect.envelopeFadeMs ≠ 0
  · rw [if_pos hzero]
    by_cases hfading : effect.Fading
    · have hmin (a b : Int) : (if a < b then a else b) = min a b := by
        split <;> omega
      rw [if_pos ((fading_iff hzero.1 hzero.2).2 hfading), if_pos hfading, ← hmin]
      have hline : effect.fadeLine exact effect.activeMs magnitude = effect.exactFade magnitude := by
        unfold exactFade
        rw [← intoFade_eq, ← fadeSpan_eq]
        rfl
      rw [hline]
      rfl
    · rw [if_neg fun hguard => hfading ((fading_iff hzero.1 hzero.2).1 hguard), if_neg hfading]
      rfl
  · rw [if_neg hzero, if_neg fun hfading : effect.Fading => hzero ⟨hfading.1, hfading.2.1⟩]
    rfl

theorem envelopeValue_exact : Id.run (effect.envelopeValue exact) = effect.exactEnvelopeValue := by
  unfold envelopeValue exactEnvelopeValue
  by_cases h : effect.sounding
  · have henvelope (magnitude : Int) :
        effect.applyEnvelope exact effect.activeMs magnitude = effect.exactEnvelope magnitude := by
      have hattacked := attacked_exact h magnitude
      have hfaded := @faded_exact effect magnitude (effect.exactAttack magnitude)
      simp only [Id.run] at hattacked hfaded
      unfold applyEnvelope exactEnvelope
      rw [hattacked]
      simp only [bind, pure, hfaded, clampMagnitude_eq]
    have hstrength := @strength_exact effect
    simp only [Id.run] at hstrength
    rw [if_pos h, if_pos h, ← hstrength]
    simp only [Id.run, bind, pure, exact]
    cases hs : effect.strength exact effect.activeMs with
    | none =>
      have hs' : effect.strength exact
          (effect.elapsedMs.toNat - effect.startDelayMs.toNat : Int) = none := hs
      rw [hs']
      rfl
    | some strength =>
      have hs' : effect.strength exact
          (effect.elapsedMs.toNat - effect.startDelayMs.toNat : Int) = some strength := hs
      rw [hs']
      simp only [Option.map_some, ← henvelope]
      rfl
  · rw [if_neg h, if_neg h]
    rfl

end Exact

section InRange

variable {effect} {magnitude : Int} (hm : 0 ≤ magnitude) (hm' : magnitude ≤ 98303)

include hm hm'

theorem attackLine_isSome (h : effect.sounding = true)
    (hlt : effect.activeMs < effect.envelopeAttackMs.toNat) :
    (effect.attackLine checked effect.activeMs magnitude).isSome := by
  have hpos := activeMs_nonneg h
  have hlevel := effect.envelopeAttackLevel.toNat_lt
  have hactive := @activeMs_lt effect
  have hspan : (magnitude - (effect.envelopeAttackLevel.toNat : Int)).natAbs ≤ 98303 := by omega
  have hquotient := natAbs_fraction_le (magnitude - (effect.envelopeAttackLevel.toNat : Int)) hpos
    hlt.le
  unfold attackLine
  simp only [checked_bind_isSome, checked_isSome]
  refine ⟨fits_int64 (by omega), product_fits (by omega) (by omega),
    quotient_fits _ (by omega) (by omega), fits_int32 (by omega), fits_int32 (by omega)⟩

theorem attacked_isSome (h : effect.sounding = true) :
    (effect.attacked checked effect.activeMs magnitude).isSome := by
  unfold attacked
  split
  · exact attackLine_isSome hm hm' h (‹_ ∧ _›).2
  · rfl

-- The quotient of the fade line goes through a 32-bit cast before it is added.
theorem fadeLine_isSome (hfading : effect.Fading) :
    (effect.fadeLine checked effect.activeMs magnitude).isSome ↔ effect.FadeFits magnitude := by
  obtain ⟨hd, hf, hinto⟩ := hfading
  have hspan := fadeSpan_pos hd hf
  have hduration := effect.durationMs.toNat_lt
  have hlevel := effect.envelopeFadeLevel.toNat_lt
  have hactive := @activeMs_lt effect
  have hshort : effect.fadeSpan ≤ effect.durationMs.toNat := min_le_left _ _
  have hlater : effect.intoFade ≤ effect.activeMs := by
    unfold intoFade
    omega
  unfold fadeLine
  rw [intoFade_eq, fadeSpan_eq]
  simp only [checked_bind_isSome, checked_isSome]
  have hwide : ((effect.envelopeFadeLevel.toNat : Int) - magnitude).natAbs ≤ 98303 := by omega
  have hsteps : uint32.Fits effect.intoFade ∧ uint32.Fits effect.fadeSpan ∧
      int64.Fits ((effect.envelopeFadeLevel.toNat : Int) - magnitude) ∧
      int64.Fits (((effect.envelopeFadeLevel.toNat : Int) - magnitude) * effect.intoFade) ∧
      int64.Fits ((((effect.envelopeFadeLevel.toNat : Int) - magnitude) * effect.intoFade).tdiv
        effect.fadeSpan) :=
    ⟨fits_uint32 hinto (by omega), fits_uint32 hspan.le (by omega), fits_int64 (by omega),
      product_fits (by omega) (by omega), quotient_fits _ (by omega) (by omega)⟩
  obtain ⟨h₁, h₂, h₃, h₄, h₅⟩ := hsteps
  simp only [h₁, h₂, h₃, h₄, h₅, true_and]
  have hneg : (magnitude - (effect.envelopeFadeLevel.toNat : Int)) * effect.intoFade =
      -(((effect.envelopeFadeLevel.toNat : Int) - magnitude) * effect.intoFade) := by
    rw [← Int.neg_mul]
    congr 1
    omega
  have hiff : effect.FadeFits magnitude ↔
      ((effect.envelopeFadeLevel.toNat : Int) - magnitude) * effect.intoFade <
        (2147483648 - magnitude) * effect.fadeSpan ∧
      -(((effect.envelopeFadeLevel.toNat : Int) - magnitude) * effect.intoFade) <
        2147483649 * effect.fadeSpan := by
    have hsub : (2147483648 - magnitude) * effect.fadeSpan =
        2147483648 * effect.fadeSpan - magnitude * effect.fadeSpan := Int.sub_mul _ _ _
    constructor
    · intro h
      obtain ⟨habove, hbelow⟩ := h
      omega
    · intro h
      exact ⟨by omega, by omega⟩
  rw [hiff]
  generalize hproduct : ((effect.envelopeFadeLevel.toNat : Int) - magnitude) * effect.intoFade =
    product
  by_cases hup : 0 ≤ product
  · -- The line rises: the sum is the first to leave its type.
    have hquotient := Int.tdiv_nonneg hup hspan.le
    have hlt := tdiv_lt_iff hup hspan (2147483648 - magnitude)
    have hbelow : 0 < 2147483649 * effect.fadeSpan := by omega
    simp only [Fits, int32, ← hlt]
    omega
  · -- The line falls: the cast is.
    have hmul : 0 < (2147483648 - magnitude) * effect.fadeSpan :=
      Int.mul_pos (by omega) hspan
    have hlt := lt_tdiv_iff (a := product) (by omega) hspan 2147483649
    have hquotient : 0 ≤ (-product).tdiv effect.fadeSpan := Int.tdiv_nonneg (by omega) hspan.le
    rw [Int.neg_tdiv] at hquotient
    simp only [Fits, int32, ← hlt]
    omega

theorem faded_isSome (result : Int) :
    (effect.faded checked effect.activeMs magnitude result).isSome ↔
      (effect.Fading → effect.FadeFits magnitude) := by
  unfold faded
  by_cases hzero : effect.durationMs ≠ 0 ∧ effect.envelopeFadeMs ≠ 0
  · rw [if_pos hzero]
    by_cases hfading : effect.Fading
    · rw [if_pos ((fading_iff hzero.1 hzero.2).2 hfading)]
      rw [← fadeLine_isSome hm hm' hfading]
      cases effect.fadeLine checked effect.activeMs magnitude with
      | none => simp [hfading]
      | some line => simp
    · rw [if_neg fun hguard => hfading ((fading_iff hzero.1 hzero.2).1 hguard)]
      simp [hfading]
  · rw [if_neg hzero]
    have hfading : ¬effect.Fading := fun hfading => hzero ⟨hfading.1, hfading.2.1⟩
    simp [hfading]

theorem applyEnvelope_isSome (h : effect.sounding = true) :
    (effect.applyEnvelope checked effect.activeMs magnitude).isSome ↔
      (effect.Fading → effect.FadeFits magnitude) := by
  unfold applyEnvelope
  obtain ⟨attacked, hattacked⟩ := Option.isSome_iff_exists.1 (attacked_isSome hm hm' h)
  rw [← faded_isSome hm hm' attacked, hattacked]
  simp only [Option.bind_eq_bind, Option.bind_some]
  cases effect.faded checked effect.activeMs magnitude attacked with
  | none => rfl
  | some result => rfl

end InRange

section Contribution

variable {effect} (h : effect.sounding = true)

include h

theorem rampValue_checked : effect.rampValue checked effect.activeMs = some effect.exactRamp := by
  have hpos := activeMs_nonneg h
  have hstart := effect.rampStart.le_toInt
  have hstart' := effect.rampStart.toInt_lt
  have hend := effect.rampEnd.le_toInt
  have hend' := effect.rampEnd.toInt_lt
  have hspan := effect.durationMs.toNat_lt
  have hsome : (effect.rampValue checked effect.activeMs).isSome := by
    unfold rampValue
    split
    · dsimp only
      generalize hposition : (if effect.activeMs > (effect.durationMs.toNat : Int) then
        (effect.durationMs.toNat : Int) else effect.activeMs) = position
      have hle : 0 ≤ position ∧ position ≤ effect.durationMs.toNat := by
        rw [← hposition]
        split <;> omega
      have hquotient :=
        natAbs_fraction_le (effect.rampEnd.toInt - effect.rampStart.toInt) hle.1 hle.2
      simp only [checked_bind_isSome, checked_isSome]
      refine ⟨fits_int64 (by omega), product_fits (by omega) (by omega),
        quotient_fits _ (by omega) (by omega), fits_int32 (by omega), fits_int32 (by omega)⟩
    · rfl
  obtain ⟨value, hvalue⟩ := Option.isSome_iff_exists.1 hsome
  have hexact := effect.rampValue_agrees faithful_exact effect.activeMs _ hvalue
  rw [hvalue, ← rampValue_exact, hexact]
  rfl

theorem exactRamp_natAbs_le : effect.exactRamp.natAbs ≤ 98303 := by
  have hpos := activeMs_nonneg h
  have hstart := effect.rampStart.le_toInt
  have hstart' := effect.rampStart.toInt_lt
  have hend := effect.rampEnd.le_toInt
  have hend' := effect.rampEnd.toInt_lt
  unfold exactRamp
  dsimp only
  split
  · omega
  · have hquotient := natAbs_fraction_le (effect.rampEnd.toInt - effect.rampStart.toInt)
      (b := min effect.activeMs effect.durationMs.toNat) (c := effect.durationMs.toNat)
      (by omega) (by omega)
    omega

theorem exactStrength_bounds {strength : Int × Bool} (hs : effect.exactStrength = some strength) :
    0 ≤ strength.1 ∧ strength.1 ≤ 98303 := by
  have hconstant := effect.constantMagnitude.le_toInt
  have hconstant' := effect.constantMagnitude.toInt_lt
  have hperiodic := effect.periodicMagnitude.toNat_lt
  have hramp := exactRamp_natAbs_le h
  unfold exactStrength at hs
  cases htype : effect.type <;> simp only [htype] at hs <;> cases hs
  case constantForce =>
    simp only [Int.abs_eq_natAbs]
    omega
  case ramp =>
    simp only [Int.abs_eq_natAbs]
    omega
  all_goals
    simp only
    omega

theorem strength_checked :
    effect.strength checked effect.activeMs = some effect.exactStrength := by
  have hconstant := effect.constantMagnitude.le_toInt
  have hconstant' := effect.constantMagnitude.toInt_lt
  have hramp := exactRamp_natAbs_le h
  unfold strength exactStrength
  cases effect.type
  case constantForce =>
    have hfits : int32.Fits |effect.constantMagnitude.toInt| :=
      fits_int32 (by rw [Int.abs_eq_natAbs]; omega)
    simp only [absolute_eq, checked_of_fits hfits]
    rfl
  case ramp =>
    have hfits : int32.Fits |effect.exactRamp| := fits_int32 (by rw [Int.abs_eq_natAbs]; omega)
    simp only [rampValue_checked h, absolute_eq, Option.bind_eq_bind, Option.bind_some,
      checked_of_fits hfits]
    rfl
  all_goals rfl

theorem envelopeValue_isSome :
    (effect.envelopeValue checked).isSome ↔ effect.FadeInRange := by
  unfold envelopeValue FadeInRange
  have hstrength := strength_checked h
  have hactive : checked uint32 ((effect.elapsedMs.toNat : Int) - effect.startDelayMs.toNat) =
      some effect.activeMs := checked_of_fits (activeMs_fits h)
  simp only [h, ite_true, hactive, Option.bind_eq_bind, Option.bind_some, hstrength,
    forall_const]
  cases hs : effect.exactStrength with
  | none => simp
  | some strength =>
    obtain ⟨hm, hm'⟩ := exactStrength_bounds h hs
    have henvelope := applyEnvelope_isSome hm hm' h
    simp only [Option.mem_def, Option.some.injEq, forall_eq']
    rw [← henvelope]
    cases effect.applyEnvelope checked effect.activeMs strength.1 with
    | none => rfl
    | some value => rfl

end Contribution

section Gain

theorem scale_bounds {magnitude : Int} (hm : 0 ≤ magnitude) (hm' : magnitude ≤ 10000)
    (gain : UInt8) :
    ∃ scaled, scale checked magnitude gain = some scaled ∧ 0 ≤ scaled ∧ scaled ≤ 10000 := by
  have hgain := gain.toNat_lt
  have hpos : 0 ≤ magnitude * gain.toNat := Int.mul_nonneg hm (by omega)
  have hle : magnitude * gain.toNat ≤ magnitude * 255 :=
    Int.mul_le_mul_of_nonneg_left (by omega) hm
  have hquotient := Int.tdiv_nonneg hpos (by decide : (0 : Int) ≤ 255)
  have hlt := tdiv_lt_iff hpos (by decide : (0 : Int) < 255) (magnitude + 1)
  have hscaled : (magnitude * gain.toNat).tdiv 255 < magnitude + 1 := hlt.2 (by omega)
  refine ⟨(magnitude * gain.toNat).tdiv 255, ?_, hquotient, by omega⟩
  unfold scale
  rw [checked_of_fits (fits_int32 (by omega))]
  exact checked_of_fits (fits_int32 (by omega))

theorem clampMagnitude_bounds (value : Int) :
    0 ≤ clampMagnitude value ∧ clampMagnitude value ≤ 10000 := by
  rw [clampMagnitude_eq]
  omega

theorem envelopeValue_bounds {effect : PidEffect} {value : Int} {periodic : Bool}
    (hv : effect.envelopeValue checked = some (some (value, periodic))) :
    0 ≤ value ∧ value ≤ 10000 := by
  have hexact := effect.envelopeValue_agrees faithful_exact _ hv
  have heq : effect.exactEnvelopeValue = some (value, periodic) := by
    rw [← envelopeValue_exact, hexact]
    rfl
  unfold exactEnvelopeValue at heq
  split at heq
  · obtain ⟨strength, hstrength, hvalue⟩ := Option.map_eq_some_iff.1 heq
    cases hvalue
    unfold exactEnvelope
    dsimp only
    omega
  · cases heq

-- The gains keep what the envelope gives in range.
theorem contribution_isSome (effect : PidEffect) (deviceGain : UInt8) :
    (effect.contribution checked deviceGain).isSome ↔ (effect.envelopeValue checked).isSome := by
  unfold contribution
  cases hv : effect.envelopeValue checked with
  | none => simp
  | some result =>
    cases result with
    | none => rfl
    | some pair =>
      obtain ⟨value, periodic⟩ := pair
      obtain ⟨hm, hm'⟩ := envelopeValue_bounds hv
      obtain ⟨gained, hgained, hg, hg'⟩ := scale_bounds hm hm' effect.gain
      obtain ⟨scaled, hscaled, -, -⟩ := scale_bounds hg hg' deviceGain
      simp only [Option.bind_eq_bind, Option.bind_some, hgained, hscaled]
      rfl

theorem not_sounding_exact {effect : PidEffect} (h : ¬effect.sounding = true)
    (deviceGain : UInt8) : effect.EnvelopeExact deviceGain := by
  have hnone : effect.envelopeValue checked = some none := by
    unfold envelopeValue
    rw [if_neg h]
    rfl
  constructor
  · unfold envelopeValue exactEnvelopeValue
    rw [if_neg h, if_neg h]
    rfl
  · rw [contribution_isSome, hnone]
    rfl

theorem envelopeExact_iff (effect : PidEffect) (deviceGain : UInt8) :
    effect.EnvelopeExact deviceGain ↔ effect.FadeInRange := by
  by_cases h : effect.sounding = true
  · rw [← envelopeValue_isSome h]
    constructor
    · intro hexact
      exact (contribution_isSome effect deviceGain).1 hexact.inRange
    · intro hsome
      obtain ⟨result, hresult⟩ := Option.isSome_iff_exists.1 hsome
      have hwrapping := effect.envelopeValue_agrees faithful_wrapping _ hresult
      have hexact := effect.envelopeValue_agrees faithful_exact _ hresult
      constructor
      · rw [hwrapping, ← envelopeValue_exact, hexact]
      · exact (contribution_isSome effect deviceGain).2 hsome
  · constructor
    · intro _ hsounding
      exact absurd hsounding h
    · intro _
      exact not_sounding_exact h deviceGain

end Gain

end PidEffect

namespace PidEngine

-- A motor value computed without leaving the 32-bit type, in the range of 16 bits.
def MotorExact (magnitude : Int) (motor : UInt16) : Prop :=
  toRumble checked magnitude = some (motor.toNat : Int)

theorem toRumble_exact (magnitude : Int) :
    MotorExact magnitude (UInt16.ofNat (Id.run (toRumble wrapping magnitude)).toNat) := by
  obtain ⟨hpos, hle⟩ := PidEffect.clampMagnitude_bounds magnitude
  have hquotient := Int.tdiv_nonneg (a := clampMagnitude magnitude * 65535) (by omega)
    (by decide : (0 : Int) ≤ 10000)
  have hlt := tdiv_lt_iff (a := clampMagnitude magnitude * 65535) (by omega)
    (by decide : (0 : Int) < 10000) 65536
  have hbound : (clampMagnitude magnitude * 65535).tdiv 10000 < 65536 := hlt.2 (by omega)
  have hproduct : int32.Fits (clampMagnitude magnitude * 65535) := fits_int32 (by omega)
  have hfits : int32.Fits ((clampMagnitude magnitude * 65535).tdiv pidNominalMax) :=
    fits_int32 (by unfold pidNominalMax; omega)
  have hchecked : toRumble checked magnitude =
      some ((clampMagnitude magnitude * 65535).tdiv pidNominalMax) := by
    unfold toRumble
    rw [checked_of_fits hproduct]
    exact checked_of_fits hfits
  have hwrapping : toRumble wrapping magnitude =
      (clampMagnitude magnitude * 65535).tdiv pidNominalMax := by
    unfold toRumble
    simp only [bind, wrapping, IntType.wrap_of_fits hproduct, IntType.wrap_of_fits hfits]
  unfold MotorExact
  rw [hchecked, hwrapping]
  congr 1
  unfold pidNominalMax
  have hnat : ((clampMagnitude magnitude * 65535).tdiv 10000).toNat < 65536 := by omega
  have hcast : (UInt16.ofNat ((clampMagnitude magnitude * 65535).tdiv 10000).toNat).toNat =
      ((clampMagnitude magnitude * 65535).tdiv 10000).toNat := UInt16.toNat_ofNat_of_lt' hnat
  change (clampMagnitude magnitude * 65535).tdiv 10000 =
    ((UInt16.ofNat ((clampMagnitude magnitude * 65535).tdiv 10000).toNat).toNat : Int)
  rw [hcast]
  omega

-- The motor values of a state: both off, or exact.
def MotorsInRange (engine : PidEngine) : Prop :=
  engine.rumble = ⟨0, 0⟩ ∨
    MotorExact engine.motors.1 engine.rumble.lowFrequency ∧
      MotorExact engine.motors.2 engine.rumble.highFrequency

theorem motorsInRange (engine : PidEngine) : engine.MotorsInRange := by
  unfold MotorsInRange rumble
  split
  · exact .inl rfl
  · exact .inr ⟨toRumble_exact _, toRumble_exact _⟩

-- The effects whose envelopes rumble() evaluates; paused or disabled it looks at none.
def Evaluates (engine : PidEngine) (i : Fin pidMaxEffects) : Prop :=
  engine.actuatorsEnabled = true ∧ engine.paused = false ∧ (engine.block i).playing = true

-- What rumble() makes of every effect that it evaluates is exact.
def EnvelopesExact (engine : PidEngine) : Prop :=
  (∀ i, engine.Evaluates i → (engine.block i).EnvelopeExact engine.deviceGain) ∧
    engine.MotorsInRange

-- In a state that a host's reports and the clock lead to, exactly the effects that
-- have outrun a fade by too much are not. In a state that evaluates none the same holds of
-- what each effect would give.
theorem envelopesExact_iff (ops : List PidOp) :
    ((run ops).EnvelopesExact ↔
      ∀ i, (run ops).Evaluates i → ((run ops).block i).FadeInRange) ∧
      ∀ i, ((run ops).block i).EnvelopeExact (run ops).deviceGain ↔
        ((run ops).block i).FadeInRange := by
  refine ⟨?_, fun i => PidEffect.envelopeExact_iff _ _⟩
  unfold EnvelopesExact
  simp only [PidEffect.envelopeExact_iff, motorsInRange, and_true]

-- A long effect whose duration is cut to one millisecond, with a fade from there on:
-- the motor stops where the line would leave it at full strength.
theorem fade_wraps :
    let ops : List PidOp := [
      .report (.createNewEffect ⟨1, 0⟩),
      .report (.setConstantForce ⟨1, 10000⟩),
      .report (.setEffect ⟨1, 0, 65535, 255, 0⟩),
      .report (.effectOperation ⟨1, 1, 1⟩),
      .advance 65530,
      .report (.setEnvelope ⟨1, 0, 65535, 0, 1⟩),
      .report (.setEffect ⟨1, 0, 1, 255, 0⟩)]
    (run ops).Evaluates 0 ∧
      Id.run (((run ops).block 0).envelopeValue wrapping) = some (0, false) ∧
      ((run ops).block 0).exactEnvelopeValue = some (10000, false) ∧
      ¬(run ops).EnvelopesExact := by
  intro ops
  have hevaluates : (run ops).Evaluates 0 := by
    refine ⟨?_, ?_, ?_⟩ <;> decide +kernel
  have hvalue : Id.run (((run ops).block 0).envelopeValue wrapping) =
      some (0, false) := by decide +kernel
  have hexact : ((run ops).block 0).exactEnvelopeValue =
      some (10000, false) := by decide +kernel
  refine ⟨hevaluates, hvalue, hexact, ?_⟩
  intro h
  have hsame := (h.1 0 hevaluates).value
  rw [hvalue, hexact] at hsame
  exact absurd hsame (by decide)

end PidEngine

end LibVirtualGamepad
