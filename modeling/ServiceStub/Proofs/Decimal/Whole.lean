import ServiceStub.Proofs.Decimal.Double
import ServiceStub.Proofs.Decimal.Shortest

/-! The magnitude of a double is told by its bits, and so is whether it is whole. -/

namespace ServiceStub

namespace Decimal.Binary

def value (binary : Binary) : Rat := binary.significand * 2 ^ binary.exponent

theorem isWhole_iff (binary : Binary) : binary.isWhole ↔ ∃ whole : Nat, binary.value = whole := by
  by_cases nonneg : 0 ≤ binary.exponent
  · obtain ⟨power, same⟩ := Int.eq_ofNat_of_zero_le nonneg
    refine iff_of_true ?_ ⟨binary.significand * 2 ^ power, ?_⟩
    · simp [isWhole, magnitude, nonneg, Nat.mod_one]
    · rw [value, same]
      simp
  · obtain ⟨power, same⟩ : ∃ power : Nat, binary.exponent = -power :=
      ⟨(-binary.exponent).toNat, by omega⟩
    have positive : (0 : Rat) < 2 ^ power := by positivity
    have divides : binary.isWhole ↔ 2 ^ power ∣ binary.significand := by
      simp only [isWhole, magnitude, if_neg nonneg, beq_iff_eq, Nat.dvd_iff_mod_eq_zero]
      rw [same, neg_neg, Int.toNat_natCast]
      rfl
    rw [divides, value, same, zpow_neg, zpow_natCast, ← div_eq_mul_inv]
    simp only [div_eq_iff positive.ne']
    constructor
    · rintro ⟨whole, same⟩
      exact ⟨whole, by rw [same]; push_cast; ring⟩
    · rintro ⟨whole, same⟩
      exact ⟨whole, by rw [mul_comm]; exact_mod_cast same⟩

end Decimal.Binary

namespace Double

open Float.Model (Format UnpackedFloat)
open Float.Model.UnpackedFloat (Sign)
open Decimal (Binary)

variable {double : Float} {value : Rat}

private theorem toNat_unpackMantissa (bits : BitVec Format.binary64.numBits) :
    (UnpackedFloat.unpackMantissa bits).toNat = bits.toNat % 2 ^ 52 := by
  simp [UnpackedFloat.unpackMantissa]

private theorem toNat_unpackExponent (bits : BitVec Format.binary64.numBits) :
    (UnpackedFloat.unpackExponent bits).toNat = bits.toNat / 2 ^ 52 % 2 ^ 11 := by
  simp [UnpackedFloat.unpackExponent, Nat.shiftRight_eq_div_pow]

private theorem abs_signed (sign : Sign) (significand : Nat) (exponent : Int) :
    |((sign.apply significand : Int) : Rat) * 2 ^ exponent| = significand * 2 ^ exponent := by
  have power : |(2 : Rat) ^ exponent| = 2 ^ exponent := abs_of_pos (zpow_pos two_pos exponent)
  rw [abs_mul, power]
  cases sign <;> simp [Sign.apply]

private theorem significand_ofFloat_of_zero {sign : Sign}
    (unpacked : double.toModel.unpack = .zero sign) :
    (Binary.ofFloat double).significand = 0 := by
  let bits : BitVec Format.binary64.numBits := double.toModel.toBits.toBitVec
  change (Binary.ofFields .double 11 bits.toNat).significand = 0
  rw [Binary.ofFields_double, ← toNat_unpackMantissa, ← toNat_unpackExponent]
  change UnpackedFloat.unpack .binary64 bits = _ at unpacked
  have view := unpacks bits
  rw [unpacked] at view
  cases view with
  | zero first zero =>
      rw [first, zero]
      rfl

private theorem ofFloat_of_finite {sign : Sign} {significand : Nat} {exponent : Int}
    {positive : 0 < significand}
    (unpacked : double.toModel.unpack = .finite sign significand exponent positive) :
    (Binary.ofFloat double).significand = significand ∧
      (Binary.ofFloat double).exponent = exponent := by
  let bits : BitVec Format.binary64.numBits := double.toModel.toBits.toBitVec
  have fields : Binary.ofFloat double = Binary.ofFields .double 11 bits.toNat := rfl
  rw [fields, Binary.ofFields_double, ← toNat_unpackMantissa, ← toNat_unpackExponent]
  change UnpackedFloat.unpack .binary64 bits = _ at unpacked
  have view := unpacks bits
  rw [unpacked] at view
  cases view with
  | subnormal first =>
      rw [first]
      exact ⟨rfl, rfl⟩
  | normal notFirst =>
      rw [if_neg notFirst, toNat_leadingBit]
      exact ⟨rfl, by dsimp only; omega⟩

/-- A double stands for the number in its bits, apart from the sign. -/
theorem abs_value (isValue : value? double = some value) :
    |value| = (Binary.ofFloat double).value := by
  rcases value?_eq_some isValue with
    ⟨sign, unpacked, rfl⟩ | ⟨sign, significand, exponent, positive, unpacked, -, rfl⟩
  · rw [Binary.value, significand_ofFloat_of_zero unpacked, abs_zero, Nat.cast_zero, zero_mul]
  · obtain ⟨same, sameExponent⟩ := ofFloat_of_finite unpacked
    rw [abs_signed, Binary.value, same, sameExponent]

theorem isFinite_iff : double.isFinite ↔ ∃ value, value? double = some value := by
  change double.toModel.unpack.isFinite = true ↔ _
  rw [value?]
  cases double.toModel.unpack with
  | infinity | notANumber =>
      refine iff_of_false Bool.false_ne_true ?_
      rintro ⟨_, isValue⟩
      cases isValue
  | zero => exact iff_of_true rfl ⟨_, rfl⟩
  | finite => exact iff_of_true rfl ⟨_, rfl⟩

theorem isWhole_iff : (double.isFinite && (Binary.ofFloat double).isWhole) = true ↔
    ∃ whole : Int, value? double = some (whole : Rat) := by
  rw [Bool.and_eq_true, isFinite_iff, Binary.isWhole_iff]
  constructor
  · rintro ⟨⟨value, isValue⟩, whole, same⟩
    rw [← abs_value isValue] at same
    rcases abs_choice value with nonneg | negative
    · exact ⟨whole, by rw [isValue, ← nonneg, same, Int.cast_natCast]⟩
    · refine ⟨-whole, ?_⟩
      rw [isValue, Int.cast_neg, Int.cast_natCast, ← same, negative, neg_neg]
  · rintro ⟨whole, isValue⟩
    refine ⟨⟨whole, isValue⟩, whole.natAbs, ?_⟩
    rw [← abs_value isValue, Nat.cast_natAbs, Int.cast_abs]

end Double

end ServiceStub
