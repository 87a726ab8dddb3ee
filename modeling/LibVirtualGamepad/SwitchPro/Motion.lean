import LibVirtualGamepad.SwitchPro
import LibVirtualGamepad.FixedWidth
import Mathlib.Algebra.Order.Field.Rat
import Mathlib.Algebra.Order.Field.Basic
import Mathlib.Tactic.Linarith
import Mathlib.Tactic.FieldSimp
import Mathlib.Tactic.NormNum

namespace LibVirtualGamepad.SwitchPro

open FixedWidth IntType
open Sc26Usb (int16At int16At_leInt16 clampI16)

-- The conversion of one axis with every result in its own type: the negation and
-- the product in 64 bits, the clamped quotient in 32, the counts in 16.
section Conversion

variable {m : Type → Type} [Monad m] (round : Rounding m)

def saturateI16 (value : Int) : Int :=
  if value > 32767 then 32767 else if value < -32768 then -32768 else value

def deviceCounts (scale divisor : Int) (reversed : Bool) (client : Int32) : m Int := do
  let milli ← round int64 (if reversed then -client.toInt else client.toInt)
  let product ← round int64 (milli * scale)
  let quotient ← round int64 (product.tdiv divisor)
  let counts ← round int32 (clampInt32 quotient)
  round int16 (saturateI16 counts)

end Conversion

-- The scale of a kind of sample: counts for each divisor of thousandths.
structure MotionScale where
  scale : Int
  divisor : Int
  scale_pos : 0 < scale
  scale_lt : scale < 65536
  divisor_pos : 0 < divisor

def accelScale : MotionScale := ⟨4096, 9807, by decide, by decide, by decide⟩
def gyroScale : MotionScale := ⟨gyroSensitivity, 936 * 1000, by decide, by decide, by decide⟩

-- The value an axis of the device is given.
def deviceMilli (reversed : Bool) (client : Int32) : Int :=
  if reversed then -client.toInt else client.toInt

def MotionScale.counts (motion : MotionScale) (reversed : Bool) (client : Int32) : Int :=
  saturateI16 (clampInt32 ((deviceMilli reversed client * motion.scale).tdiv motion.divisor))

theorem saturateI16_fits (value : Int) : int16.Fits (saturateI16 value) := by
  unfold saturateI16
  constructor <;> simp only [int16] <;> split <;> try split
  all_goals omega

theorem clampInt32_fits (value : Int) : int32.Fits (clampInt32 value) := by
  unfold clampInt32
  constructor <;> simp only [int32] <;> omega

theorem clampI16_toInt (value : Int) : (clampI16 value).toInt = saturateI16 value := by
  obtain ⟨hlo, hhi⟩ := saturateI16_fits value
  simp only [int16] at hlo hhi
  have hdef : clampI16 value = Int16.ofInt (saturateI16 value) := rfl
  rw [hdef]
  exact Int16.toInt_ofInt_of_le hlo (by omega)

theorem deviceMilli_bounds (reversed : Bool) (client : Int32) :
    (deviceMilli reversed client).natAbs ≤ 2147483648 := by
  have hlo := client.le_toInt
  have hhi := client.toInt_lt
  unfold deviceMilli
  split <;> omega

-- Nothing overflows, whatever the client sends.
theorem deviceCounts_checked (motion : MotionScale) (reversed : Bool) (client : Int32) :
    deviceCounts checked motion.scale motion.divisor reversed client =
      some (motion.counts reversed client) := by
  have hmilli := deviceMilli_bounds reversed client
  have hscale := motion.scale_lt
  have hpos := motion.scale_pos
  have hproduct : (deviceMilli reversed client * motion.scale).natAbs ≤
      2147483648 * 65536 := by
    rw [Int.natAbs_mul]
    exact Nat.mul_le_mul hmilli (by omega)
  have hquotient := natAbs_tdiv_le (deviceMilli reversed client * motion.scale) motion.divisor
  have hfitsMilli : int64.Fits (deviceMilli reversed client) := by
    constructor <;> simp only [int64] <;> omega
  have hfitsProduct : int64.Fits (deviceMilli reversed client * motion.scale) := by
    constructor <;> simp only [int64] <;> omega
  have hfitsQuotient :
      int64.Fits ((deviceMilli reversed client * motion.scale).tdiv motion.divisor) := by
    constructor <;> simp only [int64] <;> omega
  unfold deviceCounts
  rw [← deviceMilli, checked_of_fits hfitsMilli]
  simp only [Option.bind_eq_bind, Option.bind_some, checked_of_fits hfitsProduct,
    checked_of_fits hfitsQuotient, checked_of_fits (clampInt32_fits _),
    checked_of_fits (saturateI16_fits _)]
  rfl

-- What a host reads from the motion calibration block.
structure ImuCalibration where
  accelOrigin : Nat → Int
  accelSensitivity : Nat → Int
  gyroOrigin : Nat → Int
  gyroSensitivity : Nat → Int

def hostCalibration (block : List UInt8) : ImuCalibration where
  accelOrigin axis := (int16At block (2 * axis)).toInt
  accelSensitivity axis := (int16At block (6 + 2 * axis)).toInt
  gyroOrigin axis := (int16At block (12 + 2 * axis)).toInt
  gyroSensitivity axis := (int16At block (18 + 2 * axis)).toInt

-- One count of an axis in thousandths of the protocol's units, with 9.807 of them
-- in a g.
def ImuCalibration.accelUnit (calibration : ImuCalibration) (axis : Nat) : ℚ :=
  4 / (calibration.accelSensitivity axis - calibration.accelOrigin axis) * 9807

def ImuCalibration.gyroUnit (calibration : ImuCalibration) (axis : Nat) : ℚ :=
  936 / (calibration.gyroSensitivity axis - calibration.gyroOrigin axis) * 1000

-- The counts of a sample in an input report, behind the id and the controller state.
def accelCount (report : List UInt8) (sample axis : Nat) : Int :=
  (int16At report (13 + 12 * sample + 2 * axis)).toInt

def gyroCount (report : List UInt8) (sample axis : Nat) : Int :=
  (int16At report (13 + 12 * sample + 6 + 2 * axis)).toInt

structure MotionVector where
  x : ℚ
  y : ℚ
  z : ℚ

-- The rotation from the device's axes to the protocol's.
def hostRotation (device : Nat → ℚ) : MotionVector := ⟨-device 1, device 2, -device 0⟩

def hostAccel (calibration : ImuCalibration) (report : List UInt8) (sample : Nat) :
    MotionVector :=
  hostRotation fun axis => accelCount report sample axis * calibration.accelUnit axis

def hostGyro (calibration : ImuCalibration) (report : List UInt8) (sample : Nat) :
    MotionVector :=
  hostRotation fun axis => gyroCount report sample axis * calibration.gyroUnit axis

-- A value on an axis of the device comes back to within one count as long as the
-- counts reach that far, and as the last count on its own side beyond them.
def RestoresDevice (unit value decoded : ℚ) : Prop :=
  (-32769 * unit < value → value < 32768 * unit → |decoded - value| < unit) ∧
  (32768 * unit ≤ value → decoded = 32767 * unit) ∧
  (value ≤ -32769 * unit → decoded = -32768 * unit)

def Restores (unit : ℚ) (reversed : Bool) (client : Int32) (decoded : ℚ) : Prop :=
  if reversed then RestoresDevice unit (-client.toInt) (-decoded)
  else RestoresDevice unit client.toInt decoded

def RestoresVector (unit : Nat → ℚ) (motion : MotionStateRequest) (decoded : MotionVector) :
    Prop :=
  Restores (unit 1) true motion.xMilli decoded.x ∧
    Restores (unit 2) false motion.yMilli decoded.y ∧
    Restores (unit 0) true motion.zMilli decoded.z

theorem served_accelUnit (axis : Nat) (haxis : axis < 3) :
    (hostCalibration (readSpi 0x6020 24)).accelUnit axis = accelScale.divisor / accelScale.scale := by
  have hcounts : ∀ axis < 3, (hostCalibration (readSpi 0x6020 24)).accelSensitivity axis = 16384 ∧
      (hostCalibration (readSpi 0x6020 24)).accelOrigin axis = 0 := by decide
  obtain ⟨hsensitivity, horigin⟩ := hcounts axis haxis
  unfold ImuCalibration.accelUnit
  rw [hsensitivity, horigin]
  norm_num [accelScale]

theorem served_gyroUnit (axis : Nat) (haxis : axis < 3) :
    (hostCalibration (readSpi 0x6020 24)).gyroUnit axis = gyroScale.divisor / gyroScale.scale := by
  have hcounts : ∀ axis < 3, (hostCalibration (readSpi 0x6020 24)).gyroSensitivity axis = 13371 ∧
      (hostCalibration (readSpi 0x6020 24)).gyroOrigin axis = 0 := by decide
  obtain ⟨hsensitivity, horigin⟩ := hcounts axis haxis
  unfold ImuCalibration.gyroUnit
  rw [hsensitivity, horigin]
  norm_num [gyroScale, gyroSensitivity]

-- In integers: the counts are less than one count away, or at the end of their range.
theorem quotient_error (value divisor : Int) (hdivisor : 0 < divisor) :
    |value.tdiv divisor * divisor - value| < divisor := by
  have hsplit := Int.tdiv_mul_add_tmod value divisor
  have hlt := Int.tmod_lt_of_pos value hdivisor
  have hgt := Int.lt_tmod_of_pos value hdivisor
  rw [abs_lt]
  omega

theorem saturated_eq (quotient : Int) :
    saturateI16 (clampInt32 quotient) = saturateI16 quotient := by
  unfold saturateI16 clampInt32
  split <;> split <;> omega

theorem tdiv_ge_iff (value divisor n : Int) (hdivisor : 0 < divisor) (hn : 0 < n) :
    n ≤ value.tdiv divisor ↔ n * divisor ≤ value := by
  by_cases hvalue : 0 ≤ value
  · have hiff := tdiv_lt_iff hvalue hdivisor n
    omega
  · have hneg : value.tdiv divisor ≤ 0 := by
      have h := Int.tdiv_nonneg (a := -value) (by omega) hdivisor.le
      rw [Int.neg_tdiv] at h
      omega
    have hpos : 0 < n * divisor := Int.mul_pos hn hdivisor
    omega

theorem tdiv_le_neg_iff (value divisor n : Int) (hdivisor : 0 < divisor) (hn : 0 < n) :
    value.tdiv divisor ≤ -n ↔ value ≤ -(n * divisor) := by
  have hiff := tdiv_ge_iff (-value) divisor n hdivisor hn
  rw [Int.neg_tdiv] at hiff
  omega

-- A bound of `n` counts, in integers.
theorem lt_unit_iff (motion : MotionScale) (value n : Int) :
    (value : ℚ) < n * ((motion.divisor : ℚ) / motion.scale) ↔
      value * motion.scale < n * motion.divisor := by
  have hscale : (0 : ℚ) < motion.scale := by exact_mod_cast motion.scale_pos
  rw [← mul_div_assoc, lt_div_iff₀ hscale]
  exact_mod_cast Iff.rfl

theorem unit_lt_iff (motion : MotionScale) (value n : Int) :
    (n : ℚ) * ((motion.divisor : ℚ) / motion.scale) < value ↔
      n * motion.divisor < value * motion.scale := by
  have hscale : (0 : ℚ) < motion.scale := by exact_mod_cast motion.scale_pos
  rw [← mul_div_assoc, div_lt_iff₀ hscale]
  exact_mod_cast Iff.rfl

theorem error_lt_unit (motion : MotionScale) (value counts : Int)
    (h : |counts * motion.divisor - value * motion.scale| < motion.divisor) :
    |(counts : ℚ) * ((motion.divisor : ℚ) / motion.scale) - value| <
      (motion.divisor : ℚ) / motion.scale := by
  have hscale : (0 : ℚ) < motion.scale := by exact_mod_cast motion.scale_pos
  have hcast : |(counts : ℚ) * motion.divisor - value * motion.scale| < motion.divisor := by
    exact_mod_cast h
  have hfraction : (counts : ℚ) * ((motion.divisor : ℚ) / motion.scale) - value =
      (counts * motion.divisor - value * motion.scale) / motion.scale := by
    field_simp
  rw [hfraction, abs_div, abs_of_pos hscale]
  exact div_lt_div_of_pos_right hcast hscale

theorem restoresDevice_counts (motion : MotionScale) (value : Int) :
    RestoresDevice ((motion.divisor : ℚ) / motion.scale) value
      (saturateI16 (clampInt32 ((value * motion.scale).tdiv motion.divisor)) *
        ((motion.divisor : ℚ) / motion.scale)) := by
  have hdivisor := motion.divisor_pos
  have herror := quotient_error (value * motion.scale) motion.divisor hdivisor
  have hhigh := tdiv_ge_iff (value * motion.scale) motion.divisor 32768 hdivisor (by omega)
  have hlow := tdiv_le_neg_iff (value * motion.scale) motion.divisor 32769 hdivisor (by omega)
  have hlowBound := unit_lt_iff motion value (-32769)
  have hhighBound := lt_unit_iff motion value 32768
  push_cast at hlowBound hhighBound
  rw [saturated_eq]
  refine ⟨?_, ?_, ?_⟩
  · intro habove hbelow
    have hge := hlowBound.mp habove
    have hlt := hhighBound.mp hbelow
    have hsame : saturateI16 ((value * motion.scale).tdiv motion.divisor) =
        (value * motion.scale).tdiv motion.divisor := by
      unfold saturateI16
      split <;> try split
      all_goals omega
    rw [hsame]
    exact error_lt_unit motion value _ herror
  · intro habove
    have hge : 32768 * motion.divisor ≤ value * motion.scale :=
      not_lt.mp fun h => absurd (hhighBound.mpr h) (not_lt.mpr habove)
    have hsaturated : saturateI16 ((value * motion.scale).tdiv motion.divisor) = 32767 := by
      unfold saturateI16
      rw [if_pos (by omega)]
    rw [hsaturated]
    norm_num
  · intro hbelow
    have hle : value * motion.scale ≤ -32769 * motion.divisor :=
      not_lt.mp fun h => absurd (hlowBound.mpr h) (not_lt.mpr hbelow)
    have hsaturated : saturateI16 ((value * motion.scale).tdiv motion.divisor) = -32768 := by
      unfold saturateI16
      rw [if_neg (by omega), if_pos (by omega)]
    rw [hsaturated]
    norm_num

theorem int16At_append (front bytes : List UInt8) (i : Nat) :
    int16At (front ++ bytes) (front.length + i) = int16At bytes i := by
  unfold int16At
  simp only [List.getD_eq_getElem?_getD, Nat.add_assoc,
    List.getElem?_append_right (Nat.le_add_right _ _), Nat.add_sub_cancel_left]

theorem int16At_words (words : List Int16) (rest : List UInt8) (k : Nat) (value : Int16)
    (hvalue : words[k]? = some value) :
    int16At (words.flatMap Sc26Usb.leInt16 ++ rest) (2 * k) = value := by
  induction words generalizing k with
  | nil => cases hvalue
  | cons word words ih =>
      rw [List.flatMap_cons, List.append_assoc]
      cases k with
      | zero =>
          have hword : word = value := by simpa using hvalue
          rw [hword]
          exact int16At_leInt16 [] (words.flatMap Sc26Usb.leInt16 ++ rest) value
      | succ k =>
          have hnext : 2 * (k + 1) = (Sc26Usb.leInt16 word).length + 2 * k := by
            have hlen : (Sc26Usb.leInt16 word).length = 2 := rfl
            omega
          rw [hnext, int16At_append]
          exact ih k (by simpa using hvalue)

def sampleWords (state : SwitchState) : List Int16 :=
  [state.accel.1, state.accel.2.1, state.accel.2.2, state.gyro.1, state.gyro.2.1, state.gyro.2.2]

-- Three samples of six words behind the id and the controller state.
theorem encoded_words (input : InputStateRequest) (state : SwitchState)
    (himu : state.imuEnabled = true) :
    ∃ front, front.length = 13 ∧ (encodeSwitchInput input state).1.bytes =
      front ++ ((sampleWords state ++ sampleWords state ++ sampleWords state).flatMap
        Sc26Usb.leInt16 ++ List.replicate 15 0) := by
  refine ⟨[inputReportId] ++ (encodeSwitchInput input state).1.stateBytes, rfl, ?_⟩
  have himuBytes : (encodeSwitchInput input state).1.imu =
      (sampleWords state ++ sampleWords state ++ sampleWords state).flatMap Sc26Usb.leInt16 := by
    unfold encodeSwitchInput
    simp only [himu, if_true]
    rfl
  have hpadded : padded 36 (encodeSwitchInput input state).1.imu =
      (encodeSwitchInput input state).1.imu := by
    rw [himuBytes]
    rfl
  rw [SwitchInputReport.bytes, hpadded, himuBytes, List.append_assoc]

-- The words of a sample where a host looks for them.
theorem sample_word (input : InputStateRequest) (state : SwitchState)
    (himu : state.imuEnabled = true) (sample k : Nat) (hsample : sample < 3) (value : Int16)
    (hvalue : (sampleWords state)[k]? = some value) :
    int16At (encodeSwitchInput input state).1.bytes (13 + (12 * sample + 2 * k)) = value := by
  obtain ⟨front, hfront, hbytes⟩ := encoded_words input state himu
  have hindex : 12 * sample + 2 * k = 2 * (6 * sample + k) := by omega
  have hlen : (sampleWords state).length = 6 := rfl
  have hk : k < 6 := by
    by_contra hlarge
    rw [List.getElem?_eq_none (by omega)] at hvalue
    cases hvalue
  rw [hbytes, ← hfront, int16At_append, hindex]
  apply int16At_words
  have hcases : sample = 0 ∨ sample = 1 ∨ sample = 2 := by omega
  rcases hcases with rfl | rfl | rfl
  · rw [List.append_assoc, List.getElem?_append_left (by omega), Nat.mul_zero, Nat.zero_add]
    exact hvalue
  · rw [List.append_assoc, List.getElem?_append_right (by omega),
      List.getElem?_append_left (by omega), hlen, Nat.mul_one, Nat.add_sub_cancel_left]
    exact hvalue
  · rw [List.getElem?_append_right (by rw [List.length_append]; omega), List.length_append, hlen,
      Nat.add_sub_cancel_left]
    exact hvalue

theorem hostAccel_eq (input : InputStateRequest) (state : SwitchState)
    (himu : state.imuEnabled = true) (sample : Nat) (hsample : sample < 3)
    (calibration : ImuCalibration) :
    hostAccel calibration (encodeSwitchInput input state).1.bytes sample =
      ⟨-(state.accel.2.1.toInt * calibration.accelUnit 1),
        state.accel.2.2.toInt * calibration.accelUnit 2,
        -(state.accel.1.toInt * calibration.accelUnit 0)⟩ := by
  have hword := sample_word input state himu sample
  unfold hostAccel hostRotation accelCount
  simp only [Nat.add_assoc, hword 0 hsample _ rfl, hword 1 hsample _ rfl, hword 2 hsample _ rfl]

theorem hostGyro_eq (input : InputStateRequest) (state : SwitchState)
    (himu : state.imuEnabled = true) (sample : Nat) (hsample : sample < 3)
    (calibration : ImuCalibration) :
    hostGyro calibration (encodeSwitchInput input state).1.bytes sample =
      ⟨-(state.gyro.2.1.toInt * calibration.gyroUnit 1),
        state.gyro.2.2.toInt * calibration.gyroUnit 2,
        -(state.gyro.1.toInt * calibration.gyroUnit 0)⟩ := by
  have hword := sample_word input state himu sample
  unfold hostGyro hostRotation gyroCount
  have hsix : ∀ axis, 13 + 12 * sample + 6 + 2 * axis = 13 + (12 * sample + 2 * (3 + axis)) := by
    intro axis
    omega
  simp only [hsix, hword (3 + 0) hsample _ rfl, hword (3 + 1) hsample _ rfl,
    hword (3 + 2) hsample _ rfl]

theorem restores_counts (motion : MotionScale) (reversed : Bool) (client : Int32) (unit : ℚ)
    (hunit : unit = motion.divisor / motion.scale) :
    Restores unit reversed client
      (if reversed then -(motion.counts reversed client * unit)
        else motion.counts reversed client * unit) := by
  have hdevice := restoresDevice_counts motion (deviceMilli reversed client)
  unfold Restores MotionScale.counts
  rw [hunit]
  cases reversed with
  | true =>
      simp only [if_true, neg_neg]
      have hcast : (deviceMilli true client : ℚ) = -client.toInt := by
        simp [deviceMilli]
      rw [hcast] at hdevice
      exact hdevice
  | false =>
      simp only [Bool.false_eq_true, if_false]
      exact hdevice

-- What each kind of sample leaves in the state.
theorem applySwitchMotion_accel (motion : MotionStateRequest) (state : SwitchState)
    (hkind : MotionKind.ofByte motion.motionType = .accelerometer) :
    let moved := (applySwitchMotion motion state).2
    moved.accel.1.toInt = accelScale.counts true motion.zMilli ∧
      moved.accel.2.1.toInt = accelScale.counts true motion.xMilli ∧
      moved.accel.2.2.toInt = accelScale.counts false motion.yMilli ∧
      moved.gyro = state.gyro ∧ moved.imuEnabled = state.imuEnabled := by
  unfold applySwitchMotion
  rw [hkind]
  exact ⟨clampI16_toInt _, clampI16_toInt _, clampI16_toInt _, rfl, rfl⟩

theorem applySwitchMotion_gyro (motion : MotionStateRequest) (state : SwitchState)
    (hkind : MotionKind.ofByte motion.motionType = .gyroscope) :
    let moved := (applySwitchMotion motion state).2
    moved.gyro.1.toInt = gyroScale.counts true motion.zMilli ∧
      moved.gyro.2.1.toInt = gyroScale.counts true motion.xMilli ∧
      moved.gyro.2.2.toInt = gyroScale.counts false motion.yMilli ∧
      moved.accel = state.accel ∧ moved.imuEnabled = state.imuEnabled := by
  unfold applySwitchMotion
  rw [hkind]
  exact ⟨clampI16_toInt _, clampI16_toInt _, clampI16_toInt _, rfl, rfl⟩

-- A host that uses the served calibration and the documented rotation reads back
-- what the client sent, in every sample of every report until the next event of
-- the same kind. No result on the way leaves its type.
theorem motion_round_trip (motion : MotionStateRequest) (state : SwitchState)
    (input : InputStateRequest) (himu : state.imuEnabled = true) :
    let calibration := hostCalibration (readSpi 0x6020 24)
    let moved := (applySwitchMotion motion state).2
    let report := (encodeSwitchInput input moved).1.bytes
    (MotionKind.ofByte motion.motionType = .accelerometer →
      (∀ sample < 3,
        RestoresVector calibration.accelUnit motion (hostAccel calibration report sample)) ∧
      moved.gyro = state.gyro ∧
      deviceCounts checked 4096 9807 true motion.zMilli = some moved.accel.1.toInt ∧
      deviceCounts checked 4096 9807 true motion.xMilli = some moved.accel.2.1.toInt ∧
      deviceCounts checked 4096 9807 false motion.yMilli = some moved.accel.2.2.toInt) ∧
    (MotionKind.ofByte motion.motionType = .gyroscope →
      (∀ sample < 3,
        RestoresVector calibration.gyroUnit motion (hostGyro calibration report sample)) ∧
      moved.accel = state.accel ∧
      deviceCounts checked gyroSensitivity (936 * 1000) true motion.zMilli =
        some moved.gyro.1.toInt ∧
      deviceCounts checked gyroSensitivity (936 * 1000) true motion.xMilli =
        some moved.gyro.2.1.toInt ∧
      deviceCounts checked gyroSensitivity (936 * 1000) false motion.yMilli =
        some moved.gyro.2.2.toInt) := by
  intro calibration moved report
  constructor
  · intro hkind
    obtain ⟨hz, hx, hy, hgyro, himuKept⟩ := applySwitchMotion_accel motion state hkind
    refine ⟨?_, hgyro, ?_, ?_, ?_⟩
    · intro sample hsample
      rw [hostAccel_eq input moved (himuKept.trans himu) sample hsample, hz, hx, hy]
      exact ⟨restores_counts accelScale true _ _ (served_accelUnit 1 (by omega)),
        restores_counts accelScale false _ _ (served_accelUnit 2 (by omega)),
        restores_counts accelScale true _ _ (served_accelUnit 0 (by omega))⟩
    · rw [hz]
      exact deviceCounts_checked accelScale true motion.zMilli
    · rw [hx]
      exact deviceCounts_checked accelScale true motion.xMilli
    · rw [hy]
      exact deviceCounts_checked accelScale false motion.yMilli
  · intro hkind
    obtain ⟨hz, hx, hy, haccel, himuKept⟩ := applySwitchMotion_gyro motion state hkind
    refine ⟨?_, haccel, ?_, ?_, ?_⟩
    · intro sample hsample
      rw [hostGyro_eq input moved (himuKept.trans himu) sample hsample, hz, hx, hy]
      exact ⟨restores_counts gyroScale true _ _ (served_gyroUnit 1 (by omega)),
        restores_counts gyroScale false _ _ (served_gyroUnit 2 (by omega)),
        restores_counts gyroScale true _ _ (served_gyroUnit 0 (by omega))⟩
    · rw [hz]
      exact deviceCounts_checked gyroScale true motion.zMilli
    · rw [hx]
      exact deviceCounts_checked gyroScale true motion.xMilli
    · rw [hy]
      exact deviceCounts_checked gyroScale false motion.yMilli

def streamingState : SwitchState := { SwitchState.initial with imuEnabled := true }

def extremeMotion : MotionStateRequest := ⟨0, 1, (0, 0, 0), 9807, -2147483648, -2147483648⟩

theorem motion_round_trip_extreme :
    let calibration := hostCalibration (readSpi 0x6020 24)
    let moved := (applySwitchMotion extremeMotion streamingState).2
    let report := (encodeSwitchInput InputStateRequest.zero moved).1.bytes
    (∀ sample < 3,
      RestoresVector calibration.accelUnit extremeMotion (hostAccel calibration report sample)) ∧
    moved.gyro = streamingState.gyro ∧
    deviceCounts checked 4096 9807 true extremeMotion.zMilli = some moved.accel.1.toInt ∧
    deviceCounts checked 4096 9807 true extremeMotion.xMilli = some moved.accel.2.1.toInt ∧
    deviceCounts checked 4096 9807 false extremeMotion.yMilli = some moved.accel.2.2.toInt :=
  (motion_round_trip extremeMotion streamingState InputStateRequest.zero rfl).1 (by decide)

end LibVirtualGamepad.SwitchPro
