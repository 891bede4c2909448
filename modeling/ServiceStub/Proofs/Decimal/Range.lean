import ServiceStub.Json.Number
import ServiceStub.Proofs.Decimal.Double
import Mathlib.Algebra.Order.Field.Power
import Mathlib.Data.Nat.Log
import Mathlib.Tactic.IntervalCases

/-!
Doubles that stay in range.  Rounding brings a number to the exponent of a double or to the next
one, so that the quotient by a power of ten is finite if the dividend is not too large.
-/

namespace ServiceStub

namespace Double

open Float.Model (Format UnpackedFloat totalExponent)
open Float.Model.UnpackedFloat (Sign ExtendedMantissa Accuracy roundWithAccuracy
  shiftToTargetExponent)

variable {sign : Sign} {significand : Nat} {exponent : Int} {accuracy : Accuracy}

private theorem mantissa_shiftRight (extended : ExtendedMantissa) (shift : Nat) :
    (extended >>> shift).mantissa = extended.mantissa / 2 ^ shift := by
  induction shift with
  | zero => simp [HShiftRight.hShiftRight, Nat.repeat]
  | succ shift induction =>
      simp only [HShiftRight.hShiftRight] at induction ⊢
      rw [Nat.repeat, ExtendedMantissa.shiftRightOne, induction, Nat.div_div_eq_div_mul,
        Nat.pow_succ]

private theorem roundedMantissa_cases (extended : ExtendedMantissa) :
    extended.roundedMantissa = extended.mantissa ∨
      extended.roundedMantissa = extended.mantissa + 1 := by
  obtain ⟨mantissa, roundBit, stickyBit⟩ := extended
  cases roundBit <;> cases stickyBit <;>
    simp only [ExtendedMantissa.roundedMantissa, ExtendedMantissa.accuracy,
      Accuracy.roundToNearestEven, true_or, or_true]
  omega

def target (significand : Nat) (exponent : Int) : Int :=
  Format.binary64.targetExponent (totalExponent significand exponent)

private theorem target_eq (significand : Nat) (exponent : Int) :
    target significand exponent = max (significand.log2 + exponent - 52) (-1074) :=
  targetExponent_eq significand exponent

private theorem mantissa_ofMantissaAndAccuracy :
    (ExtendedMantissa.ofMantissaAndAccuracy significand accuracy).mantissa = significand := by
  cases accuracy with
  | exact => rfl
  | inexact relative => cases relative <;> rfl

private theorem shiftToTargetExponent_eq (accuracy : Accuracy)
    (enough : exponent ≤ target significand exponent) :
    ∃ extended : ExtendedMantissa,
      extended.mantissa = significand / 2 ^ (target significand exponent - exponent).toNat ∧
        shiftToTargetExponent .binary64 significand exponent accuracy =
          (extended, target significand exponent) := by
  refine ⟨ExtendedMantissa.ofMantissaAndAccuracy significand accuracy >>>
    (target significand exponent - exponent).toNat, ?_, ?_⟩
  · rw [mantissa_shiftRight, mantissa_ofMantissaAndAccuracy]
  · have shifted : exponent + ((target significand exponent - exponent).toNat : Int) =
        target significand exponent := by omega
    exact congrArg _ shifted

/-- A significand cut off at the exponent of a double has at most 53 bits, and less only if the
exponent is the least one. -/
theorem cut_bounds (enough : exponent ≤ target significand exponent) :
    significand / 2 ^ (target significand exponent - exponent).toNat < 2 ^ 53 ∧
      (2 ^ 52 ≤ significand / 2 ^ (target significand exponent - exponent).toNat ∨
        target significand exponent = -1074) := by
  generalize shifted : (target significand exponent - exponent).toNat = shift
  rw [target_eq] at enough shifted ⊢
  constructor
  · rw [Nat.div_lt_iff_lt_mul (Nat.two_pow_pos _), ← Nat.pow_add]
    exact Nat.lt_of_lt_of_le Nat.lt_log2_self (Nat.pow_le_pow_right (by decide) (by omega))
  · refine or_iff_not_imp_right.mpr fun normal => ?_
    have nonzero : significand ≠ 0 := by
      rintro rfl
      rw [Nat.log2_zero] at enough normal
      omega
    rw [Nat.le_div_iff_mul_le (Nat.two_pow_pos _), ← Nat.pow_add]
    exact Nat.le_trans (Nat.pow_le_pow_right (by decide) (by omega)) (Nat.log2_self_le nonzero)

private theorem target_ge (significand : Nat) (exponent : Int) :
    -1074 ≤ target significand exponent := by
  rw [target_eq]
  omega

private theorem shiftToTargetExponent_rounded {rounded : Nat} (le : rounded ≤ 2 ^ 53)
    (least : -1074 ≤ exponent) (filled : 2 ^ 52 ≤ rounded ∨ exponent = -1074) :
    ∃ extended : ExtendedMantissa, ∃ later : Int,
      shiftToTargetExponent .binary64 rounded exponent .exact = (extended, later) ∧
        exponent ≤ later ∧ later ≤ exponent + 1 ∧ extended.mantissa < 2 ^ 53 ∧
        (2 ^ 52 ≤ extended.mantissa ∨ later = -1074) := by
  have upper : rounded.log2 ≤ 53 := by
    rw [Nat.log2_eq_log_two, ← Nat.log_pow (by decide : 1 < 2) 53]
    exact Nat.log_mono_right le
  have enough : exponent ≤ target rounded exponent := by
    rw [target_eq]
    rcases filled with filled | rfl
    · have lower := (Nat.le_log2 (by omega)).mpr filled
      omega
    · exact Int.le_max_right ..
  obtain ⟨extended, mantissa, shifted⟩ := shiftToTargetExponent_eq .exact enough
  refine ⟨extended, _, shifted, enough, ?_, mantissa ▸ cut_bounds enough⟩
  rw [target_eq]
  omega

private theorem roundWithAccuracy_cases (sign : Sign) (accuracy : Accuracy)
    (enough : exponent ≤ target significand exponent) :
    (∃ result later, ∃ positive : 0 < result,
      roundWithAccuracy .binary64 sign significand exponent accuracy =
          .finite sign result later positive ∧
        target significand exponent ≤ later ∧ later ≤ target significand exponent + 1 ∧
        (later ≤ 971 → IsCanonical result later)) ∨
      roundWithAccuracy .binary64 sign significand exponent accuracy = .zero sign ∧
        target significand exponent = -1074 := by
  obtain ⟨cut, mantissa, shifted⟩ := shiftToTargetExponent_eq accuracy enough
  obtain ⟨bound, filled⟩ := cut_bounds enough
  rw [← mantissa] at bound filled
  have least := target_ge significand exponent
  have le : cut.roundedMantissa ≤ 2 ^ 53 := by
    rcases roundedMantissa_cases cut with same | next <;> omega
  have stillFilled : 2 ^ 52 ≤ cut.roundedMantissa ∨ target significand exponent = -1074 :=
    filled.imp_left fun filled => by rcases roundedMantissa_cases cut with same | next <;> omega
  obtain ⟨final, later, final_eq, first, second, finalBound, finalFilled⟩ :=
    shiftToTargetExponent_rounded le least stillFilled
  rcases roundWithAccuracy_eq sign shifted final_eq with ⟨zero, rounded⟩ | ⟨positive, rounded⟩
  · exact .inr ⟨rounded, by omega⟩
  · exact .inl ⟨_, _, positive, rounded, first, second, fun most =>
      ⟨positive, finalBound, least.trans first, most, finalFilled⟩⟩

private theorem unpack_pack_zero (sign : Sign) :
    (Float.Model.pack (.zero sign)).unpack = .zero sign := by
  cases sign <;> rfl

private theorem unpack_pack_of_large {positive : 0 < significand} (large : 971 < exponent) :
    (Float.Model.pack (.finite sign significand exponent positive)).unpack = .infinity sign := by
  change UnpackedFloat.unpack .binary64 (UnpackedFloat.pack .binary64 _) = _
  rw [pack_of_large positive large]
  cases sign <;> rfl

def rounded (sign : Sign) (significand : Nat) (exponent : Int) (accuracy : Accuracy) : Float :=
  Float.ofModel (Float.Model.pack
    (roundWithAccuracy .binary64 sign significand exponent accuracy))

/-- What is rounded becomes zero, infinite, or a number whose exponent is the expected one or the
next. -/
theorem unpack_rounded (sign : Sign) (accuracy : Accuracy)
    (enough : exponent ≤ target significand exponent) :
    ((rounded sign significand exponent accuracy).toModel.unpack = .zero sign ∧
        target significand exponent = -1074) ∨
      ((rounded sign significand exponent accuracy).toModel.unpack = .infinity sign ∧
        971 ≤ target significand exponent) ∨
      ∃ result later, ∃ canonical : IsCanonical result later,
        (rounded sign significand exponent accuracy).toModel.unpack =
            .finite sign result later canonical.positive ∧
          target significand exponent ≤ later ∧ later ≤ target significand exponent + 1 := by
  rw [rounded]
  rcases roundWithAccuracy_cases sign accuracy enough with
    ⟨result, later, positive, same, first, second, fits⟩ | ⟨zero, least⟩
  · rw [same]
    by_cases most : later ≤ 971
    · exact .inr (.inr ⟨result, later, fits most, unpack_pack (fits most), first, second⟩)
    · exact .inr (.inl ⟨unpack_pack_of_large (Int.lt_of_not_ge most), by omega⟩)
  · rw [zero]
    exact .inl ⟨unpack_pack_zero sign, least⟩

def Under (bound : Int) (double : Float) : Prop :=
  (∃ sign, double.toModel.unpack = .zero sign) ∨
    ∃ sign significand exponent, ∃ positive : 0 < significand,
      double.toModel.unpack = .finite sign significand exponent positive ∧ exponent ≤ bound

def Large (double : Float) : Prop :=
  (∃ sign, double.toModel.unpack = .infinity sign) ∨
    ∃ sign significand exponent, ∃ positive : 0 < significand,
      double.toModel.unpack = .finite sign significand exponent positive ∧
        1 ≤ totalExponent significand exponent

variable {bound : Int} {double other : Float}

theorem Under.isFinite (under : Under bound double) : double.isFinite = true := by
  change double.toModel.unpack.isFinite = true
  rcases under with ⟨sign, zero⟩ | ⟨sign, significand, exponent, positive, finite, -⟩
  · rw [zero]
    rfl
  · rw [finite]
    rfl

private theorem under_zero (sign : Sign) :
    Under bound (Float.ofModel (Float.Model.pack (.zero sign))) :=
  .inl ⟨sign, unpack_pack_zero sign⟩

private theorem under_rounded (enough : exponent ≤ target significand exponent)
    (small : target significand exponent < bound) (most : bound ≤ 971) :
    Under bound (rounded sign significand exponent accuracy) := by
  rcases unpack_rounded sign accuracy enough with
    ⟨zero, -⟩ | ⟨-, large⟩ | ⟨result, later, canonical, finite, -, second⟩
  · exact .inl ⟨sign, zero⟩
  · omega
  · exact .inr ⟨sign, result, later, canonical.positive, finite, by omega⟩

private theorem large_rounded (enough : exponent ≤ target significand exponent)
    (large : -52 ≤ target significand exponent) :
    Large (rounded sign significand exponent accuracy) := by
  rcases unpack_rounded sign accuracy enough with
    ⟨-, least⟩ | ⟨infinite, -⟩ | ⟨result, later, canonical, finite, first, -⟩
  · omega
  · exact .inl ⟨sign, infinite⟩
  · have filled := canonical.normal.resolve_right (by omega)
    have leading := (Nat.le_log2 canonical.positive.ne').mpr filled
    refine .inr ⟨sign, result, later, canonical.positive, finite, ?_⟩
    rw [totalExponent]
    omega

section Quotient

variable {dividend divisor shift : Nat}

private theorem quotient_lt (positive : 0 < divisor) {bits : Nat}
    (le : dividend.log2 + 1 + shift ≤ bits + divisor.log2) :
    dividend <<< shift / divisor < 2 ^ bits := by
  rw [Nat.shiftLeft_eq, Nat.div_lt_iff_lt_mul positive]
  calc dividend * 2 ^ shift
      < 2 ^ (dividend.log2 + 1) * 2 ^ shift :=
        Nat.mul_lt_mul_of_pos_right Nat.lt_log2_self (Nat.two_pow_pos _)
    _ = 2 ^ (dividend.log2 + 1 + shift) := (Nat.pow_add ..).symm
    _ ≤ 2 ^ (bits + divisor.log2) := Nat.pow_le_pow_right (by decide) le
    _ = 2 ^ bits * 2 ^ divisor.log2 := Nat.pow_add ..
    _ ≤ 2 ^ bits * divisor := Nat.mul_le_mul_left _ (Nat.log2_self_le positive.ne')

private theorem le_quotient (positive : 0 < dividend) (divisorPositive : 0 < divisor) (bits : Nat)
    (le : bits + (divisor.log2 + 1) ≤ dividend.log2 + shift) :
    2 ^ bits ≤ dividend <<< shift / divisor := by
  rw [Nat.shiftLeft_eq, Nat.le_div_iff_mul_le divisorPositive]
  calc 2 ^ bits * divisor
      ≤ 2 ^ bits * 2 ^ (divisor.log2 + 1) := Nat.mul_le_mul_left _ Nat.lt_log2_self.le
    _ = 2 ^ (bits + (divisor.log2 + 1)) := (Nat.pow_add ..).symm
    _ ≤ 2 ^ (dividend.log2 + shift) := Nat.pow_le_pow_right (by decide) le
    _ = 2 ^ dividend.log2 * 2 ^ shift := Nat.pow_add ..
    _ ≤ dividend * 2 ^ shift := Nat.mul_le_mul_right _ (Nat.log2_self_le positive.ne')

/-- A quotient has the bits that a double needs, and its leading bit stands where it is expected. -/
theorem exists_divCore (positive : 0 < dividend) (divisorPositive : 0 < divisor)
    (exponent otherExponent : Int) :
    ∃ quotient start accuracy,
      UnpackedFloat.divCore .binary64 dividend exponent divisor otherExponent =
          (quotient, start, accuracy) ∧
        start ≤ target quotient start ∧
        target quotient start ≤ max (-1074)
          (totalExponent dividend exponent - totalExponent divisor otherExponent - 52) := by
  refine ⟨_, _, _, rfl, ?_⟩
  let place := totalExponent dividend exponent - totalExponent divisor otherExponent
  have placed : place = dividend.log2 + exponent - (divisor.log2 + otherExponent) := by
    simp only [place, totalExponent]
    omega
  have least : Format.binary64.targetExponent place = max (place - 53) (-1074) := rfl
  change _ ∧ _ ≤ max (-1074) (place - 52)
  rw [least]
  generalize starts : min (exponent - otherExponent) (max (place - 53) (-1074)) = start
  generalize shifted : (exponent - otherExponent - start).toNat = shift
  rw [target_eq]
  constructor
  · by_cases small : start ≤ -1074
    · exact Int.le_trans small (Int.le_max_right ..)
    · have filled : 2 ^ 52 ≤ dividend <<< shift / divisor :=
        le_quotient positive divisorPositive 52 (by omega)
      have leading := (Nat.le_log2 (by omega)).mpr filled
      omega
  · by_cases zero : dividend <<< shift / divisor = 0
    · rw [zero, Nat.log2_zero]
      omega
    · have leading := (Nat.log2_lt zero).mpr (quotient_lt divisorPositive
        (Nat.sub_le_iff_le_add.mp (le_refl (dividend.log2 + 1 + shift - divisor.log2))))
      omega

end Quotient

/-- Division by what is at least one hardly raises the exponent. -/
theorem Under.div (under : Under bound double) (large : Large other) (least : -1074 ≤ bound)
    (most : bound ≤ 970) : Under (bound + 1) (double / other) := by
  change Under _ (Float.ofModel (Float.Model.pack
    (UnpackedFloat.div .binary64 double.toModel.unpack other.toModel.unpack)))
  rcases under with ⟨sign, zero⟩ | ⟨sign, significand, exponent, positive, finite, small⟩
  · rw [zero]
    rcases large with ⟨otherSign, infinite⟩ | ⟨otherSign, divisor, otherExponent, _, finite, -⟩
    · rw [infinite]
      exact under_zero _
    · rw [finite]
      exact under_zero _
  · have canonical := isCanonical_of_unpack finite
    have leading := (Nat.log2_lt positive.ne').mpr canonical.bound
    rw [finite]
    rcases large with
      ⟨otherSign, infinite⟩ | ⟨otherSign, divisor, otherExponent, divisorPositive, finite, large⟩
    · rw [infinite]
      exact under_zero _
    · obtain ⟨quotient, start, accuracy, divided, enough, place⟩ :=
        exists_divCore positive divisorPositive exponent otherExponent
      have rounded : UnpackedFloat.div .binary64 (.finite sign significand exponent positive)
          (.finite otherSign divisor otherExponent divisorPositive) =
            roundWithAccuracy .binary64 (sign / otherSign) quotient start accuracy := by
        change (match UnpackedFloat.divCore .binary64 significand exponent divisor
            otherExponent with
          | (quotient, start, accuracy) =>
            roundWithAccuracy .binary64 (sign / otherSign) quotient start accuracy) = _
        rw [divided]
      rw [finite, rounded]
      rw [totalExponent] at place
      exact under_rounded enough (by omega) (by omega)

theorem isFinite_neg (finite : double.isFinite = true) : (-double).isFinite = true := by
  change double.toModel.unpack.isFinite = true at finite
  change (Float.Model.pack double.toModel.unpack.neg).unpack.isFinite = true
  cases unpacked : double.toModel.unpack with
  | infinity sign | notANumber =>
      rw [unpacked] at finite
      cases finite
  | zero sign =>
      change (Float.Model.pack (.zero _)).unpack.isFinite = true
      rw [unpack_pack_zero]
      rfl
  | finite sign significand exponent positive =>
      change (Float.Model.pack (.finite _ significand exponent positive)).unpack.isFinite = true
      rw [unpack_pack (isCanonical_of_unpack unpacked)]
      rfl

private theorem large_powerOfTen_of_le {exponent : Nat} (bound : exponent ≤ 22) :
    Large (JsonNumber.powerOfTen exponent) := by
  interval_cases exponent
  all_goals exact .inr ⟨_, _, _, _, rfl, by decide +kernel⟩

private theorem target_of_le {product : Nat} (large : 2 ^ 53 ≤ product) :
    target product (-53) = product.log2 - 105 ∧ (53 : Int) ≤ product.log2 := by
  have leading := (Nat.le_log2 (by omega)).mpr large
  rw [target_eq]
  omega

theorem large_powerOfTen {exponent : Nat} (bound : exponent ≤ 308) :
    Large (JsonNumber.powerOfTen exponent) := by
  by_cases small : exponent ≤ 22
  · exact large_powerOfTen_of_le small
  · have large : 2 ^ 53 ≤ 1 <<< 53 * 10 ^ exponent :=
      Nat.le_mul_of_pos_right _ (Nat.pow_pos (by decide))
    obtain ⟨place, leading⟩ := target_of_le large
    have power : JsonNumber.powerOfTen exponent =
        rounded (.positive * .positive) (1 <<< 53 * 10 ^ exponent) (-53) .exact := by
      rw [JsonNumber.powerOfTen, Float.ofScientific, dif_neg (by omega)]
      change Float.ofModel (Float.Model.pack
        (UnpackedFloat.ofScientific .binary64 1 (exponent : Int))) = _
      have bits : Format.binary64.exponentBits = 11 := rfl
      rw [UnpackedFloat.ofScientific, dif_neg (by decide), bits, if_neg (by omega),
        if_neg (by omega), if_pos (by omega)]
      rfl
    rw [power]
    exact large_rounded (by omega) (by omega)

theorem under_ofNat {number : Nat} (bound : number ≤ JsonNumber.greatestWord) :
    Under 53 (Float.ofNat number) := by
  rcases Nat.eq_zero_or_pos number with rfl | positive
  · exact .inl ⟨.positive, rfl⟩
  by_cases small : number ≤ 2 ^ 53
  · obtain ⟨significand, exponent, canonical, same⟩ := exists_isCanonical positive small
    have power : (2 : Rat) ^ exponent ≤ 2 ^ (53 : Int) :=
      calc (2 : Rat) ^ exponent ≤ significand * 2 ^ exponent :=
            le_mul_of_one_le_left (by positivity) (by exact_mod_cast canonical.positive)
        _ = number := same.symm
        _ ≤ 2 ^ (53 : Int) := by exact_mod_cast small
    rw [ofNat_eq canonical same]
    exact .inr ⟨_, _, _, _, unpack_ofCanonical canonical,
      (zpow_le_zpow_iff_right₀ (by norm_num)).mp power⟩
  · have large : 2 ^ 53 ≤ number <<< 53 * 1 := by
      rw [Nat.shiftLeft_eq]
      omega
    have upper : (number <<< 53 * 1).log2 < 117 := by
      rw [Nat.log2_lt (by omega), Nat.shiftLeft_eq]
      rw [JsonNumber.greatestWord] at bound
      omega
    obtain ⟨place, leading⟩ := target_of_le large
    have same : Float.ofNat number =
        rounded (.positive * .positive) (number <<< 53 * 1) (-53) .exact := by
      change Float.ofScientific number false 0 = _
      rw [Float.ofScientific, dif_neg (by omega)]
      change Float.ofModel (Float.Model.pack (UnpackedFloat.ofScientific .binary64 number 0)) = _
      rw [ofScientific_eq_mul positive]
      rfl
    rw [same]
    exact under_rounded (by omega) (by omega) (by decide)

end Double

end ServiceStub
