import ServiceStub.Proofs.Decimal.Double
import Mathlib.Tactic.Ring

/-! Finite doubles are ordered as the numbers they stand for. -/

namespace ServiceStub.Double

open Float.Model (UnpackedFloat)
open Float.Model.UnpackedFloat (Sign)

variable {sign otherSign : Sign} {significand other : Nat} {exponent otherExponent : Int}

/-- A greater exponent outweighs every significand, since only at the least exponent does the
leading bit stand lower than elsewhere. -/
theorem IsCanonical.value_lt_of_exponent_lt (canonical : IsCanonical significand exponent)
    (otherCanonical : IsCanonical other otherExponent) (lower : exponent < otherExponent) :
    (significand : Rat) * 2 ^ exponent < other * 2 ^ otherExponent := by
  have full : 2 ^ 52 ≤ other := otherCanonical.normal.resolve_right fun least => by
    have := canonical.least
    omega
  have scale : (0 : Rat) < 2 ^ exponent := zpow_pos two_pos exponent
  calc
    (significand : Rat) * 2 ^ exponent < 2 ^ 53 * 2 ^ exponent :=
      mul_lt_mul_of_pos_right (by exact_mod_cast canonical.bound) scale
    _ = 2 ^ 52 * 2 ^ (exponent + 1) := by
      rw [zpow_add_one₀ two_ne_zero]
      ring
    _ ≤ 2 ^ 52 * 2 ^ otherExponent :=
      mul_le_mul_of_nonneg_left (zpow_le_zpow_right₀ one_le_two lower) (by positivity)
    _ ≤ other * 2 ^ otherExponent :=
      mul_le_mul_of_nonneg_right (by exact_mod_cast full) (zpow_pos two_pos otherExponent).le

private theorem IsCanonical.value_lt_iff (canonical : IsCanonical significand exponent)
    (otherCanonical : IsCanonical other otherExponent) :
    (significand : Rat) * 2 ^ exponent < other * 2 ^ otherExponent ↔
      exponent < otherExponent ∨ exponent = otherExponent ∧ significand < other := by
  rcases lt_trichotomy exponent otherExponent with lower | rfl | higher
  · exact iff_of_true (canonical.value_lt_of_exponent_lt otherCanonical lower) (.inl lower)
  · rw [mul_lt_mul_iff_left₀ (zpow_pos two_pos exponent), Nat.cast_lt]
    simp
  · have above := otherCanonical.value_lt_of_exponent_lt canonical higher
    refine iff_of_false above.not_gt ?_
    omega

private theorem IsCanonical.signed_lt_iff (canonical : IsCanonical significand exponent)
    (otherCanonical : IsCanonical other otherExponent) :
    ((sign.apply significand : Int) * 2 ^ exponent : Rat) <
        (otherSign.apply other : Int) * 2 ^ otherExponent ↔
      UnpackedFloat.compare (.finite sign significand exponent canonical.positive)
        (.finite otherSign other otherExponent otherCanonical.positive) = some .lt := by
  have positive := canonical.value_pos
  have otherPositive := otherCanonical.value_pos
  cases sign with
  | positive =>
      cases otherSign with
      | positive =>
          change _ ↔ some ((compare exponent otherExponent).then (compare significand other)) = _
          simp only [Sign.apply, Int.cast_natCast, canonical.value_lt_iff otherCanonical,
            Option.some.injEq, Ordering.then_eq_lt, compare_lt_iff_lt, compare_eq_iff_eq]
      | negative =>
          refine iff_of_false ?_ (by rintro ⟨⟩)
          simp only [Sign.apply, Int.cast_neg, Int.cast_natCast, neg_mul, not_lt]
          linarith
  | negative =>
      cases otherSign with
      | positive =>
          refine iff_of_true ?_ rfl
          simp only [Sign.apply, Int.cast_neg, Int.cast_natCast, neg_mul]
          linarith
      | negative =>
          change _ ↔ some ((compare exponent otherExponent).then
            (compare significand other)).swap = _
          simp only [Sign.apply, Int.cast_neg, Int.cast_natCast, neg_mul, neg_lt_neg_iff,
            otherCanonical.value_lt_iff canonical, Option.some.injEq, Ordering.swap_eq_lt,
            Ordering.then_eq_gt, compare_gt_iff_gt, compare_eq_iff_eq, @eq_comm Int exponent]

private theorem IsCanonical.signed_pos_iff (canonical : IsCanonical significand exponent) :
    (0 : Rat) < (sign.apply significand : Int) * 2 ^ exponent ↔
      UnpackedFloat.compare (.zero otherSign)
        (.finite sign significand exponent canonical.positive) = some .lt := by
  have positive := canonical.value_pos
  cases sign with
  | positive => exact iff_of_true positive rfl
  | negative => exact iff_of_false (by simpa [Sign.apply] using positive.le) nofun

private theorem IsCanonical.signed_neg_iff (canonical : IsCanonical significand exponent) :
    ((sign.apply significand : Int) * 2 ^ exponent : Rat) < 0 ↔
      UnpackedFloat.compare (.finite sign significand exponent canonical.positive)
        (.zero otherSign) = some .lt := by
  have positive := canonical.value_pos
  cases sign with
  | positive => exact iff_of_false positive.le.not_gt nofun
  | negative => exact iff_of_true (by simpa [Sign.apply] using positive) rfl

theorem lt_iff_value_lt {left right : Float} {value otherValue : Rat}
    (isValue : value? left = some value) (isOther : value? right = some otherValue) :
    left < right ↔ value < otherValue := by
  rw [lt_iff_compare]
  rcases value?_eq_some isValue with
    ⟨zeroSign, unpacked, rfl⟩ | ⟨sign, significand, exponent, positive, unpacked, canonical, rfl⟩
  · rcases value?_eq_some isOther with
      ⟨otherZeroSign, otherUnpacked, rfl⟩ | ⟨_, _, _, _, otherUnpacked, otherCanonical, rfl⟩
    · rw [unpacked, otherUnpacked]
      exact iff_of_false nofun (lt_irrefl 0)
    · rw [unpacked, otherUnpacked, otherCanonical.signed_pos_iff]
  · rcases value?_eq_some isOther with
      ⟨otherZeroSign, otherUnpacked, rfl⟩ | ⟨_, _, _, _, otherUnpacked, otherCanonical, rfl⟩
    · rw [unpacked, otherUnpacked, canonical.signed_neg_iff]
    · rw [unpacked, otherUnpacked, canonical.signed_lt_iff otherCanonical]

end ServiceStub.Double
