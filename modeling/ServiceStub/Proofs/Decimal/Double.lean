import ServiceStub.Proofs.MatchResult

/-!
The numbers that doubles stand for.  Two doubles are equal just if they stand for the same number,
and an integer that a double stands for is converted to that double.  A distance computed with
doubles is exact for just the same outcomes as one of exact rationals.
-/

namespace ServiceStub

namespace Double

open Float.Model (Format UnpackedFloat totalExponent)
open Float.Model.UnpackedFloat (Sign ExtendedMantissa roundWithAccuracy shiftToTargetExponent)

/-- The number that a double stands for, unless it is infinite or no number at all. -/
def value? (double : Float) : Option Rat :=
  match double.toModel.unpack with
  | .zero _ => some 0
  | .finite sign significand exponent _ => some (sign.apply significand * 2 ^ exponent)
  | _ => none

/-- The significand has all its bits, or the exponent is the least one. -/
structure IsCanonical (significand : Nat) (exponent : Int) : Prop where
  positive : 0 < significand
  bound : significand < 2 ^ 53
  least : -1074 ≤ exponent
  greatest : exponent ≤ 971
  normal : 2 ^ 52 ≤ significand ∨ exponent = -1074

variable {double : Float} {sign : Sign} {significand other : Nat} {exponent otherExponent : Int}

private theorem toNat_append {width low : Nat} (first : BitVec width) (rest : BitVec low) :
    (first ++ rest).toNat = first.toNat * 2 ^ low + rest.toNat := by
  rw [BitVec.toNat_append, ← Nat.shiftLeft_add_eq_or_of_lt rest.isLt, Nat.shiftLeft_eq]

theorem toNat_leadingBit (fraction : BitVec 52) :
    (1#1 ++ fraction).toNat = 2 ^ 52 + fraction.toNat :=
  toNat_append 1#1 fraction

private theorem sign_packComponents (sign : Sign) (field : BitVec 11) (fraction : BitVec 52) :
    Sign.ofBitVec (UnpackedFloat.unpackSign
      (UnpackedFloat.packComponents .binary64 sign field fraction)) = sign := by
  have first : UnpackedFloat.unpackSign
      (UnpackedFloat.packComponents .binary64 sign field fraction) = sign.toBitVec := by
    apply BitVec.eq_of_toNat_eq
    change (sign.toBitVec ++ field ++ fraction).toNat >>> 63 % 2 = _
    rw [toNat_append, toNat_append, Nat.shiftRight_eq_div_pow]
    omega
  rw [first]
  cases sign <;> rfl

inductive Unpacks (bits : BitVec Format.binary64.numBits) : UnpackedFloat → Prop
  | infinity (last : UnpackedFloat.unpackExponent bits = -1#11)
      (zero : UnpackedFloat.unpackMantissa bits = 0#52) :
      Unpacks bits (.infinity (Sign.ofBitVec (UnpackedFloat.unpackSign bits)))
  | notANumber (last : UnpackedFloat.unpackExponent bits = -1#11)
      (nonzero : UnpackedFloat.unpackMantissa bits ≠ 0#52) : Unpacks bits .notANumber
  | zero (first : UnpackedFloat.unpackExponent bits = 0#11)
      (zero : UnpackedFloat.unpackMantissa bits = 0#52) :
      Unpacks bits (.zero (Sign.ofBitVec (UnpackedFloat.unpackSign bits)))
  | subnormal (first : UnpackedFloat.unpackExponent bits = 0#11)
      (positive : 0 < (UnpackedFloat.unpackMantissa bits).toNat) :
      Unpacks bits (.finite (Sign.ofBitVec (UnpackedFloat.unpackSign bits))
        (UnpackedFloat.unpackMantissa bits).toNat (-1074) positive)
  | normal (notFirst : (UnpackedFloat.unpackExponent bits).toNat ≠ 0)
      (notLast : (UnpackedFloat.unpackExponent bits).toNat ≠ 2047)
      (positive : 0 < (1#1 ++ UnpackedFloat.unpackMantissa bits).toNat) :
      Unpacks bits (.finite (Sign.ofBitVec (UnpackedFloat.unpackSign bits))
        (1#1 ++ UnpackedFloat.unpackMantissa bits).toNat
        ((UnpackedFloat.unpackExponent bits).toNat - ((1023 : Nat) + (52 : Nat))) positive)

theorem unpacks (bits : BitVec Format.binary64.numBits) :
    Unpacks bits (UnpackedFloat.unpack .binary64 bits) := by
  by_cases last : UnpackedFloat.unpackExponent bits = -1#11
  · by_cases zero : UnpackedFloat.unpackMantissa bits = 0#52
    · have unpacked : UnpackedFloat.unpack .binary64 bits = .infinity _ :=
        (if_pos last).trans (if_pos zero)
      exact unpacked ▸ .infinity last zero
    · have unpacked : UnpackedFloat.unpack .binary64 bits = .notANumber :=
        (if_pos last).trans (if_neg zero)
      exact unpacked ▸ .notANumber last zero
  · by_cases first : UnpackedFloat.unpackExponent bits = 0#11
    · by_cases zero : UnpackedFloat.unpackMantissa bits = 0#52
      · have unpacked : UnpackedFloat.unpack .binary64 bits = .zero _ :=
          (if_neg last).trans ((if_pos first).trans (dif_pos zero))
        exact unpacked ▸ .zero first zero
      · have positive : 0 < (UnpackedFloat.unpackMantissa bits).toNat :=
          Nat.pos_of_ne_zero fun none => zero (BitVec.eq_of_toNat_eq none)
        have unpacked : UnpackedFloat.unpack .binary64 bits = .finite _ _ _ positive :=
          (if_neg last).trans ((if_pos first).trans (dif_neg zero))
        rw [unpacked, first]
        exact .subnormal first positive
    · have unpacked : UnpackedFloat.unpack .binary64 bits = .finite _ _ _ _ :=
        (if_neg last).trans (if_neg first)
      exact unpacked ▸ .normal (fun zero => first (BitVec.eq_of_toNat_eq zero))
        (fun same => last (BitVec.eq_of_toNat_eq same)) _

variable {bits : BitVec Format.binary64.numBits}

private theorem compare_finite {otherSign : Sign} (positive : 0 < significand)
    (otherPositive : 0 < other) :
    (UnpackedFloat.finite sign significand exponent positive).compare
        (.finite otherSign other otherExponent otherPositive) = some .eq ↔
      sign = otherSign ∧ significand = other ∧ exponent = otherExponent := by
  cases sign with
  | positive =>
      cases otherSign with
      | positive =>
          change some ((compare exponent otherExponent).then (compare significand other)) = _ ↔ _
          simp [and_comm]
      | negative => exact iff_of_false nofun nofun
  | negative =>
      cases otherSign with
      | positive => exact iff_of_false nofun nofun
      | negative =>
          change some ((compare exponent otherExponent).then
            (compare significand other)).swap = _ ↔ _
          simp [and_comm]

/-- Doubles that are equal: numbers that are the same, and zeros whatever their signs. -/
inductive Equal : UnpackedFloat → UnpackedFloat → Prop
  | same {number : UnpackedFloat} (isNumber : number ≠ .notANumber) : Equal number number
  | zeros (sign other : Sign) : Equal (.zero sign) (.zero other)

private theorem Equal.compare_eq {left right : UnpackedFloat} (equal : Equal left right) :
    left.compare right = some .eq := by
  cases equal with
  | same isNumber =>
      cases left with
      | notANumber => exact absurd rfl isNumber
      | infinity sign => cases sign <;> rfl
      | zero sign => rfl
      | finite => exact (compare_finite _ _).mpr ⟨rfl, rfl, rfl⟩
  | zeros sign other => rfl

private theorem equal_of_compare_eq {left right : UnpackedFloat}
    (equal : left.compare right = some .eq) : Equal left right := by
  cases left with
  | notANumber => cases equal
  | infinity sign =>
      cases right with
      | infinity other =>
          cases sign with
          | positive =>
              cases other with
              | positive => exact .same nofun
              | negative => cases equal
          | negative =>
              cases other with
              | positive => cases equal
              | negative => exact .same nofun
      | notANumber => cases equal
      | zero | finite => cases sign <;> cases equal
  | zero sign =>
      cases right with
      | zero other => exact .zeros sign other
      | notANumber => cases equal
      | infinity other | finite other => cases other <;> cases equal
  | finite sign =>
      cases right with
      | finite other =>
          obtain ⟨rfl, rfl, rfl⟩ := (compare_finite _ _).mp equal
          exact .same nofun
      | notANumber => cases equal
      | infinity other => cases other <;> cases equal
      | zero => cases sign <;> cases equal

private theorem beq_iff {left right : UnpackedFloat} : left.beq right = true ↔ Equal left right :=
  beq_iff_eq.trans ⟨equal_of_compare_eq, Equal.compare_eq⟩

theorem isCanonical_of_unpack {positive : 0 < significand}
    (unpacked : double.toModel.unpack = .finite sign significand exponent positive) :
    IsCanonical significand exponent := by
  let bits : BitVec Format.binary64.numBits := double.toModel.toBits.toBitVec
  have fraction : (UnpackedFloat.unpackMantissa bits).toNat < 2 ^ 52 :=
    (UnpackedFloat.unpackMantissa bits).isLt
  have field : (UnpackedFloat.unpackExponent bits).toNat < 2 ^ 11 :=
    (UnpackedFloat.unpackExponent bits).isLt
  have view := unpacks bits
  change UnpackedFloat.unpack .binary64 bits = _ at unpacked
  rw [unpacked] at view
  cases view with
  | subnormal first positive => exact ⟨positive, by omega, by decide, by decide, .inr rfl⟩
  | normal notFirst notLast positive =>
      rw [toNat_leadingBit] at positive ⊢
      exact ⟨positive, by omega, by omega, by omega, .inl (Nat.le_add_right ..)⟩

theorem IsCanonical.value_pos (canonical : IsCanonical significand exponent) :
    (0 : Rat) < significand * 2 ^ exponent :=
  mul_pos (Nat.cast_pos.mpr canonical.positive) (zpow_pos two_pos exponent)

theorem value?_eq_some {value : Rat} (isValue : value? double = some value) :
    (∃ sign, double.toModel.unpack = .zero sign ∧ value = 0) ∨
      ∃ sign significand exponent positive,
        double.toModel.unpack = .finite sign significand exponent positive ∧
          IsCanonical significand exponent ∧
          value = (sign.apply significand : Int) * 2 ^ exponent := by
  rw [value?] at isValue
  cases unpacked : double.toModel.unpack with
  | zero sign =>
      rw [unpacked] at isValue
      exact .inl ⟨sign, rfl, (Option.some.inj isValue).symm⟩
  | finite sign significand exponent positive =>
      rw [unpacked] at isValue
      exact .inr ⟨sign, significand, exponent, positive, rfl, isCanonical_of_unpack unpacked,
        (Option.some.inj isValue).symm⟩
  | infinity sign | notANumber =>
      rw [unpacked] at isValue
      cases isValue

private theorem significand_eq (le : exponent ≤ otherExponent)
    (same : (significand : Rat) * 2 ^ exponent = other * 2 ^ otherExponent) :
    significand = other * 2 ^ (otherExponent - exponent).toNat := by
  obtain ⟨shift, rfl⟩ := Int.le.dest le
  have scale : (2 : Rat) ^ exponent ≠ 0 := zpow_ne_zero _ two_ne_zero
  rw [zpow_add₀ two_ne_zero, zpow_natCast, mul_comm (2 ^ exponent), ← mul_assoc] at same
  rw [add_sub_cancel_left, Int.toNat_natCast]
  exact_mod_cast mul_right_cancel₀ scale same

private theorem log2_mul_two_pow (positive : 0 < significand) (shift : Nat) :
    (significand * 2 ^ shift).log2 = significand.log2 + shift := by
  rw [Nat.log2_eq_iff (Nat.mul_pos positive (Nat.two_pow_pos shift)).ne', Nat.pow_add,
    Nat.add_right_comm, Nat.pow_add]
  exact ⟨Nat.mul_le_mul_right _ (Nat.log2_self_le positive.ne'),
    Nat.mul_lt_mul_of_pos_right Nat.lt_log2_self (Nat.two_pow_pos shift)⟩

/-- Where the leading bit stands depends on the value only. -/
theorem totalExponent_eq (positive : 0 < significand) (otherPositive : 0 < other)
    (same : (significand : Rat) * 2 ^ exponent = other * 2 ^ otherExponent) :
    totalExponent significand exponent = totalExponent other otherExponent := by
  wlog le : exponent ≤ otherExponent generalizing significand other exponent otherExponent
  · exact (this otherPositive positive same.symm (Int.le_of_not_le le)).symm
  have shifted := significand_eq le same
  have leading : significand.log2 = other.log2 + (otherExponent - exponent).toNat := by
    rw [shifted, log2_mul_two_pow otherPositive]
  rw [totalExponent, totalExponent, leading]
  omega

theorem targetExponent_eq (significand : Nat) (exponent : Int) :
    Format.binary64.targetExponent (totalExponent significand exponent) =
      max (significand.log2 + exponent - 52) (-1074) := by
  change max (totalExponent significand exponent - 53) (-1074) = _
  rw [totalExponent]
  omega

theorem IsCanonical.target (canonical : IsCanonical significand exponent) :
    Format.binary64.targetExponent (totalExponent significand exponent) = exponent := by
  obtain ⟨positive, bound, least, -, normal⟩ := canonical
  have upper : significand.log2 < 53 := (Nat.log2_lt positive.ne').mpr bound
  have lower : 52 ≤ significand.log2 ∨ exponent = -1074 :=
    normal.imp_left fun normal => (Nat.le_log2 positive.ne').mpr normal
  rw [targetExponent_eq]
  omega

theorem IsCanonical.unique (canonical : IsCanonical significand exponent)
    (otherCanonical : IsCanonical other otherExponent)
    (same : (significand : Rat) * 2 ^ exponent = other * 2 ^ otherExponent) :
    significand = other ∧ exponent = otherExponent := by
  have exponents : exponent = otherExponent := by
    rw [← canonical.target, ← otherCanonical.target,
      totalExponent_eq canonical.positive otherCanonical.positive same]
  subst exponents
  have scale : (2 : Rat) ^ exponent ≠ 0 := zpow_ne_zero _ two_ne_zero
  exact ⟨by exact_mod_cast mul_right_cancel₀ scale same, rfl⟩

private theorem shiftRight_mul_two_pow (significand shift : Nat) :
    (⟨significand * 2 ^ shift, false, false⟩ : ExtendedMantissa) >>> shift =
      ⟨significand, false, false⟩ := by
  induction shift generalizing significand with
  | zero => simp [HShiftRight.hShiftRight, Nat.repeat]
  | succ shift induction =>
      have shifted := induction (significand * 2)
      simp only [HShiftRight.hShiftRight] at shifted ⊢
      rw [Nat.repeat, Nat.pow_succ', ← Nat.mul_assoc, shifted]
      simp [ExtendedMantissa.shiftRightOne]

private theorem shiftToTargetExponent_exact (canonical : IsCanonical significand exponent)
    (otherPositive : 0 < other) (le : otherExponent ≤ exponent)
    (same : (other : Rat) * 2 ^ otherExponent = significand * 2 ^ exponent) :
    shiftToTargetExponent .binary64 other otherExponent .exact =
      (⟨significand, false, false⟩, exponent) := by
  rw [shiftToTargetExponent, totalExponent_eq otherPositive canonical.positive same,
    canonical.target, UnpackedFloat.shiftToExponent, ExtendedMantissa.ofMantissaAndAccuracy,
    significand_eq le same, shiftRight_mul_two_pow]
  exact congrArg _ (by omega)

/-- A significand that is cut off after rounding is rounded to zero or to what is left. -/
theorem roundWithAccuracy_eq (sign : Sign) {accuracy : UnpackedFloat.Accuracy}
    {cut final : ExtendedMantissa} {place later : Int}
    (shifted : shiftToTargetExponent .binary64 significand exponent accuracy = (cut, place))
    (last : shiftToTargetExponent .binary64 cut.roundedMantissa place .exact = (final, later)) :
    (final.mantissa = 0 ∧
        roundWithAccuracy .binary64 sign significand exponent accuracy = .zero sign) ∨
      ∃ positive : 0 < final.mantissa,
        roundWithAccuracy .binary64 sign significand exponent accuracy =
          .finite sign final.mantissa later positive := by
  have rounded : roundWithAccuracy .binary64 sign significand exponent accuracy =
      if zero : final.mantissa = 0 then .zero sign
      else .finite sign final.mantissa later (Nat.pos_of_ne_zero zero) := by
    rw [roundWithAccuracy, shifted]
    dsimp only
    rw [last]
  by_cases zero : final.mantissa = 0
  · exact .inl ⟨zero, rounded.trans (dif_pos zero)⟩
  · exact .inr ⟨Nat.pos_of_ne_zero zero, rounded.trans (dif_neg zero)⟩

private theorem roundWithAccuracy_exact (canonical : IsCanonical significand exponent)
    (otherPositive : 0 < other) (le : otherExponent ≤ exponent)
    (same : (other : Rat) * 2 ^ otherExponent = significand * 2 ^ exponent) :
    roundWithAccuracy .binary64 sign other otherExponent .exact =
      .finite sign significand exponent canonical.positive := by
  have shifted := shiftToTargetExponent_exact canonical otherPositive le same
  have last := shiftToTargetExponent_exact canonical canonical.positive le_rfl rfl
  rcases roundWithAccuracy_eq sign shifted last with ⟨zero, -⟩ | ⟨_, rounded⟩
  · exact absurd zero canonical.positive.ne'
  · exact rounded

private theorem toNat_exponentField {field : Nat} (bound : field < 2047) :
    (BitVec.ofNat 11 field).toNat = field := by
  rw [BitVec.toNat_ofNat]
  omega

private theorem exponentField_ne_last {field : Nat} (bound : field < 2047) :
    BitVec.ofNat 11 field ≠ -1#11 := fun last => by
  have number : field = 2047 := (toNat_exponentField bound).symm.trans (congrArg BitVec.toNat last)
  omega

theorem pack_of_large (positive : 0 < significand) (large : 971 < exponent) :
    UnpackedFloat.pack .binary64 (.finite sign significand exponent positive) =
      UnpackedFloat.packedInfinity .binary64 sign :=
  if_pos (show 2 ^ 11 ≤ (exponent + (1023 : Nat) + (52 : Nat)).toNat + 1 by omega)

private theorem pack_of_leading (positive : 0 < significand) (fits : exponent ≤ 971)
    (leading : significand.log2 + 1 = 53) :
    UnpackedFloat.pack .binary64 (.finite sign significand exponent positive) =
      UnpackedFloat.packComponents .binary64 sign
        (BitVec.ofNat 11 (exponent + (1023 : Nat) + (52 : Nat)).toNat)
        (BitVec.ofNat 52 significand) :=
  (if_neg (show ¬2 ^ 11 ≤ (exponent + (1023 : Nat) + (52 : Nat)).toNat + 1 by omega)).trans
    (if_pos leading)

private theorem pack_of_short (positive : 0 < significand) (fits : exponent ≤ 971)
    (short : significand.log2 + 1 ≠ 53) :
    UnpackedFloat.pack .binary64 (.finite sign significand exponent positive) =
      UnpackedFloat.packComponents .binary64 sign 0#11 (BitVec.ofNat 52 significand) :=
  (if_neg (show ¬2 ^ 11 ≤ (exponent + (1023 : Nat) + (52 : Nat)).toNat + 1 by omega)).trans
    (if_neg short)

theorem unpack_pack (canonical : IsCanonical significand exponent) :
    (Float.Model.pack (.finite sign significand exponent canonical.positive)).unpack =
      .finite sign significand exponent canonical.positive := by
  obtain ⟨positive, bound, least, greatest, normal⟩ := canonical
  change UnpackedFloat.unpack .binary64 (UnpackedFloat.pack .binary64 _) = _
  by_cases large : 2 ^ 52 ≤ significand
  · have leading : significand.log2 + 1 = 53 := by
      rw [(Nat.log2_eq_iff positive.ne').mpr ⟨large, bound⟩]
    obtain ⟨field, shifted⟩ : ∃ field : Nat, exponent + 1075 = field :=
      Int.eq_ofNat_of_zero_le (by omega)
    have biased : (exponent + (1023 : Nat) + (52 : Nat)).toNat = field := by omega
    have inRange : field < 2047 := by omega
    have stored := toNat_exponentField inRange
    have notFirst : BitVec.ofNat 11 field ≠ 0#11 := fun first => by
      have number : field = 0 := stored.symm.trans (congrArg BitVec.toNat first)
      omega
    rw [pack_of_leading positive greatest leading, biased]
    have view := unpacks (UnpackedFloat.packComponents .binary64 sign (BitVec.ofNat 11 field)
      (BitVec.ofNat 52 significand))
    generalize UnpackedFloat.unpack .binary64 _ = result at view ⊢
    cases view with
    | infinity last | notANumber last =>
        rw [UnpackedFloat.unpackExponent_packComponents] at last
        exact absurd last (exponentField_ne_last inRange)
    | zero first | subnormal first =>
        rw [UnpackedFloat.unpackExponent_packComponents] at first
        exact absurd first notFirst
    | normal =>
        rw [UnpackedFloat.finite.injEq, sign_packComponents,
          UnpackedFloat.unpackExponent_packComponents, UnpackedFloat.unpackMantissa_packComponents,
          toNat_leadingBit, BitVec.toNat_ofNat, stored]
        exact ⟨rfl, by omega, by omega⟩
  · have subnormal : exponent = -1074 := normal.resolve_left large
    have short : significand.log2 + 1 ≠ 53 := by
      have := (Nat.log2_lt positive.ne').mpr (Nat.lt_of_not_le large)
      omega
    have stored : (BitVec.ofNat 52 significand).toNat = significand := by
      rw [BitVec.toNat_ofNat]
      omega
    have nonzero : BitVec.ofNat 52 significand ≠ 0#52 := fun zero => by
      have number : significand = 0 := stored.symm.trans (congrArg BitVec.toNat zero)
      omega
    rw [pack_of_short positive greatest short]
    have view := unpacks (UnpackedFloat.packComponents .binary64 sign 0#11
      (BitVec.ofNat 52 significand))
    generalize UnpackedFloat.unpack .binary64 _ = result at view ⊢
    cases view with
    | infinity last | notANumber last =>
        rw [UnpackedFloat.unpackExponent_packComponents] at last
        exact absurd last (by decide)
    | zero first zero =>
        rw [UnpackedFloat.unpackMantissa_packComponents] at zero
        exact absurd zero nonzero
    | subnormal =>
        rw [UnpackedFloat.finite.injEq, sign_packComponents,
          UnpackedFloat.unpackMantissa_packComponents, stored]
        exact ⟨rfl, rfl, subnormal.symm⟩
    | normal notFirst =>
        rw [UnpackedFloat.unpackExponent_packComponents] at notFirst
        exact absurd rfl notFirst

private theorem shiftLeft_mul_zpow (significand shift : Nat) (exponent : Int) :
    ((significand <<< shift : Nat) : Rat) * 2 ^ (exponent - shift) =
      significand * 2 ^ exponent := by
  rw [Nat.shiftLeft_eq, Nat.cast_mul, Nat.cast_pow, Nat.cast_ofNat, mul_assoc, ← zpow_natCast,
    ← zpow_add₀ two_ne_zero]
  congr 2
  omega

private theorem round_exact (canonical : IsCanonical significand exponent)
    (otherPositive : 0 < other)
    (same : (other : Rat) * 2 ^ otherExponent = significand * 2 ^ exponent) :
    UnpackedFloat.round .binary64 sign other otherExponent =
      .finite sign significand exponent canonical.positive := by
  rw [UnpackedFloat.round, totalExponent_eq otherPositive canonical.positive same,
    canonical.target, UnpackedFloat.decreaseExponent]
  refine roundWithAccuracy_exact canonical ?_ (by omega) ?_
  · rw [Nat.shiftLeft_eq]
    exact Nat.mul_pos otherPositive (Nat.two_pow_pos _)
  · rw [shiftLeft_mul_zpow, same]

def ofCanonical (sign : Sign) (canonical : IsCanonical significand exponent) : Float :=
  Float.ofModel (Float.Model.pack (.finite sign significand exponent canonical.positive))

theorem unpack_ofCanonical (canonical : IsCanonical significand exponent) :
    (ofCanonical sign canonical).toModel.unpack =
      .finite sign significand exponent canonical.positive :=
  unpack_pack canonical

private theorem mul_exact (canonical : IsCanonical significand exponent) {left right : Nat}
    {leftExponent rightExponent : Int} {leftPositive : 0 < left} {rightPositive : 0 < right}
    (le : leftExponent + rightExponent ≤ exponent)
    (same : ((left * right : Nat) : Rat) * 2 ^ (leftExponent + rightExponent) =
      significand * 2 ^ exponent) :
    UnpackedFloat.mul .binary64 (.finite .positive left leftExponent leftPositive)
        (.finite .positive right rightExponent rightPositive) =
      .finite .positive significand exponent canonical.positive :=
  roundWithAccuracy_exact canonical (Nat.mul_pos leftPositive rightPositive) le same

private theorem toFloat_eq (canonical : IsCanonical significand exponent) {number : Nat}
    (positive : 0 < number) (small : number < 2 ^ 53)
    (same : (number : Rat) * 2 ^ (0 : Int) = significand * 2 ^ exponent) :
    number.toUInt64.toFloat = ofCanonical .positive canonical := by
  have word : number.toUInt64.toNat = number := by
    rw [Nat.toUInt64_eq, UInt64.toNat_ofNat']
    omega
  change Float.ofModel (Float.Model.pack
    (UnpackedFloat.normalize .binary64 number.toUInt64.toNat 0 .positive)) = _
  rw [word, UnpackedFloat.normalize, Int.compare_eq_gt.mpr (Int.natCast_pos.mpr positive)]
  exact congrArg (Float.ofModel <| Float.Model.pack ·) (round_exact canonical positive same)

theorem ofScientific_eq_mul {number : Nat} (positive : 0 < number) :
    UnpackedFloat.ofScientific .binary64 number 0 =
      UnpackedFloat.mul .binary64
        (.finite .positive (number <<< 53) (0 - 53) (Nat.shiftLeft_pos_iff.mpr positive))
        (.finite .positive 1 0 Nat.one_pos) := by
  have inRange : ¬(0 : Int) < -(2 ^ Format.binary64.exponentBits + number.log2) := by
    change ¬(0 : Int) < -(2 ^ 11 + number.log2)
    omega
  rw [UnpackedFloat.ofScientific, dif_neg positive.ne', if_neg inRange, if_neg (by decide),
    if_pos le_rfl]
  rfl

private theorem ofModel_ofScientific (canonical : IsCanonical significand exponent) {number : Nat}
    (large : 2 ^ 53 ≤ number)
    (same : (number : Rat) * 2 ^ (0 : Int) = significand * 2 ^ exponent) :
    Float.ofModel (Float.Model.ofScientific number 0) = ofCanonical .positive canonical := by
  have positive : 0 < number := by omega
  have placed := totalExponent_eq positive canonical.positive same
  have leading : 53 ≤ number.log2 := (Nat.le_log2 positive.ne').mpr large
  have significandLeading : significand.log2 < 53 :=
    (Nat.log2_lt canonical.positive.ne').mpr canonical.bound
  simp only [totalExponent] at placed
  have place : (0 : Int) ≤ exponent := by omega
  change Float.ofModel (Float.Model.pack (UnpackedFloat.ofScientific .binary64 number 0)) = _
  rw [ofScientific_eq_mul positive, mul_exact canonical (by omega)]
  · rfl
  · rw [Nat.mul_one, add_zero]
    exact (shiftLeft_mul_zpow number 53 0).trans same

theorem ofNat_eq (canonical : IsCanonical significand exponent) {number : Nat}
    (same : (number : Rat) = significand * 2 ^ exponent) :
    Float.ofNat number = ofCanonical .positive canonical := by
  have positive : 0 < number := by
    have scaled := canonical.value_pos
    rw [← same] at scaled
    exact_mod_cast scaled
  have whole : (number : Rat) * 2 ^ (0 : Int) = significand * 2 ^ exponent := by
    rw [zpow_zero, mul_one, same]
  change Float.ofScientific number false 0 = _
  rw [Float.ofScientific]
  split
  · next small =>
      -- a small number is multiplied by the first power of ten, which is one
      have one : Float.exactlyRepresentablePowersOfTen[0].toModel.unpack =
          .finite .positive (2 ^ 52) (-52) (by decide) := rfl
      rw [toFloat_eq canonical positive small.1 whole]
      change Float.ofModel (Float.Model.pack (UnpackedFloat.mul .binary64
        (ofCanonical .positive canonical).toModel.unpack
        Float.exactlyRepresentablePowersOfTen[0].toModel.unpack)) = _
      rw [unpack_ofCanonical, one, mul_exact canonical (by omega)]
      · rfl
      · rw [← Nat.shiftLeft_eq]
        exact shiftLeft_mul_zpow significand 52 exponent
  · next large => exact ofModel_ofScientific canonical (by omega) whole

private theorem value?_ofCanonical (canonical : IsCanonical significand exponent) :
    value? (ofCanonical sign canonical) =
      some ((sign.apply significand : Int) * 2 ^ exponent : Rat) := by
  rw [value?, unpack_ofCanonical]

private theorem neg_ofCanonical (canonical : IsCanonical significand exponent) :
    (ofCanonical .positive canonical).neg = ofCanonical .negative canonical := by
  change Float.ofModel (Float.Model.pack (ofCanonical .positive canonical).toModel.unpack.neg) = _
  rw [unpack_ofCanonical]
  rfl

private theorem ofInt_eq (canonical : IsCanonical significand exponent) {number : Int}
    (same : (number : Rat) = (sign.apply significand : Int) * 2 ^ exponent) :
    Float.ofInt number = ofCanonical sign canonical := by
  have scaled := canonical.value_pos
  cases sign with
  | positive =>
      simp only [Sign.apply, Int.cast_natCast] at same
      rw [← same, Int.cast_pos] at scaled
      obtain ⟨natural, rfl⟩ := Int.eq_ofNat_of_zero_le scaled.le
      exact ofNat_eq canonical (by exact_mod_cast same)
  | negative =>
      simp only [Sign.apply, Int.cast_neg, Int.cast_natCast, neg_mul] at same
      rw [← neg_eq_iff_eq_neg.mpr same, neg_pos, Int.cast_lt_zero] at scaled
      obtain ⟨natural, rfl⟩ := Int.eq_negSucc_of_lt_zero scaled
      rw [Float.ofInt, ofNat_eq canonical, neg_ofCanonical]
      rw [← neg_eq_iff_eq_neg.mpr same, Int.cast_negSucc, neg_neg]

private theorem value?_ofInt_zero : value? (Float.ofInt 0) = some 0 := rfl

/-- An integer that some double stands for is converted to a double of the same value. -/
theorem value?_ofInt {number : Int} (isValue : value? double = some (number : Rat)) :
    value? (Float.ofInt number) = some (number : Rat) := by
  rcases value?_eq_some isValue with
    ⟨sign, -, zero⟩ | ⟨sign, significand, exponent, positive, -, canonical, same⟩
  · rw [Int.cast_eq_zero.mp zero, value?_ofInt_zero, Int.cast_zero]
  · rw [ofInt_eq canonical same, value?_ofCanonical, same]

theorem exists_isCanonical {number : Nat} (positive : 0 < number) (bound : number ≤ 2 ^ 53) :
    ∃ significand exponent, IsCanonical significand exponent ∧
      (number : Rat) = significand * 2 ^ exponent := by
  rcases Nat.eq_or_lt_of_le bound with rfl | bound
  · exact ⟨2 ^ 52, 1, ⟨by decide, by decide, by decide, by decide, .inl le_rfl⟩, by norm_num⟩
  · have upper : number.log2 < 53 := (Nat.log2_lt positive.ne').mpr bound
    have lower : 2 ^ number.log2 ≤ number := Nat.log2_self_le positive.ne'
    have next : number < 2 ^ (number.log2 + 1) := Nat.lt_log2_self
    refine ⟨number <<< (52 - number.log2), 0 - (52 - number.log2 : Nat),
      ⟨?_, ?_, by omega, by omega, .inl ?_⟩, ?_⟩
    · rw [Nat.shiftLeft_eq]
      exact Nat.mul_pos positive (Nat.two_pow_pos _)
    · calc
        number <<< (52 - number.log2) = number * 2 ^ (52 - number.log2) := Nat.shiftLeft_eq ..
        _ < 2 ^ (number.log2 + 1) * 2 ^ (52 - number.log2) :=
            Nat.mul_lt_mul_of_pos_right next (Nat.two_pow_pos _)
        _ = 2 ^ 53 := by rw [← Nat.pow_add]; congr 1; omega
    · calc
        2 ^ 52 = 2 ^ number.log2 * 2 ^ (52 - number.log2) := by rw [← Nat.pow_add]; congr 1; omega
        _ ≤ number * 2 ^ (52 - number.log2) := Nat.mul_le_mul_right _ lower
        _ = number <<< (52 - number.log2) := (Nat.shiftLeft_eq ..).symm
    · rw [shiftLeft_mul_zpow, zpow_zero, mul_one]

theorem value?_ofInt_of_natAbs_le {number : Int} (bound : number.natAbs ≤ 2 ^ 53) :
    value? (Float.ofInt number) = some (number : Rat) := by
  obtain ⟨natural, sign⟩ := Int.eq_nat_or_neg number
  have small : natural ≤ 2 ^ 53 := by omega
  rcases Nat.eq_zero_or_pos natural with rfl | positive
  · rw [show number = 0 by omega, value?_ofInt_zero, Int.cast_zero]
  · obtain ⟨significand, exponent, canonical, same⟩ := exists_isCanonical positive small
    rcases sign with rfl | rfl
    · have signed : ((natural : Int) : Rat) =
          (Sign.positive.apply significand : Int) * 2 ^ exponent := by
        rw [Int.cast_natCast, same, Sign.apply, Int.cast_natCast]
      rw [ofInt_eq canonical signed, value?_ofCanonical, signed]
    · have signed : ((-natural : Int) : Rat) =
          (Sign.negative.apply significand : Int) * 2 ^ exponent := by
        rw [Int.cast_neg, Int.cast_natCast, same, Sign.apply, Int.cast_neg, Int.cast_natCast,
          neg_mul]
      rw [ofInt_eq canonical signed, value?_ofCanonical, signed]

private theorem unpack_eq_notANumber
    (unpacked : UnpackedFloat.unpack .binary64 bits = .notANumber) :
    UnpackedFloat.unpackExponent bits = -1#11 ∧ UnpackedFloat.unpackMantissa bits ≠ 0#52 := by
  have view := unpacks bits
  rw [unpacked] at view
  cases view with
  | notANumber last nonzero => exact ⟨last, nonzero⟩

private theorem unpack_pack_ne_notANumber {unpacked : UnpackedFloat}
    (isNumber : unpacked ≠ .notANumber) :
    (Float.Model.pack unpacked).unpack ≠ .notANumber := by
  intro notANumber
  obtain ⟨last, nonzero⟩ := unpack_eq_notANumber notANumber
  change UnpackedFloat.unpackExponent (UnpackedFloat.pack .binary64 unpacked) = _ at last
  change UnpackedFloat.unpackMantissa (UnpackedFloat.pack .binary64 unpacked) ≠ _ at nonzero
  cases unpacked with
  | infinity sign => exact nonzero UnpackedFloat.unpackMantissa_packComponents
  | notANumber => exact isNumber rfl
  | zero sign => exact nonzero UnpackedFloat.unpackMantissa_packComponents
  | finite sign significand exponent positive =>
      by_cases large : 971 < exponent
      · rw [pack_of_large positive large] at nonzero
        exact nonzero UnpackedFloat.unpackMantissa_packComponents
      · have fits : exponent ≤ 971 := Int.le_of_not_gt large
        by_cases leading : significand.log2 + 1 = 53
        · rw [pack_of_leading positive fits leading,
            UnpackedFloat.unpackExponent_packComponents] at last
          exact exponentField_ne_last (by omega) last
        · rw [pack_of_short positive fits leading,
            UnpackedFloat.unpackExponent_packComponents] at last
          exact absurd last (by decide)

private theorem beq_self_ofModel_pack {unpacked : UnpackedFloat}
    (isNumber : unpacked ≠ .notANumber) :
    (Float.ofModel (Float.Model.pack unpacked) == Float.ofModel (Float.Model.pack unpacked)) =
      true := by
  change (Float.Model.pack unpacked).unpack.beq (Float.Model.pack unpacked).unpack = true
  exact beq_iff.mpr (.same (unpack_pack_ne_notANumber isNumber))

private theorem IsCanonical.signed_ne_zero (canonical : IsCanonical significand exponent) :
    ((sign.apply significand : Int) * 2 ^ exponent : Rat) ≠ 0 := by
  have nonzero := canonical.value_pos.ne'
  cases sign with
  | positive => exact nonzero
  | negative =>
      rw [Sign.apply, Int.cast_neg, neg_mul]
      exact neg_ne_zero.mpr nonzero

private theorem IsCanonical.signed_unique {otherSign : Sign}
    (canonical : IsCanonical significand exponent)
    (otherCanonical : IsCanonical other otherExponent)
    (same : ((sign.apply significand : Int) * 2 ^ exponent : Rat) =
      (otherSign.apply other : Int) * 2 ^ otherExponent) :
    sign = otherSign ∧ significand = other ∧ exponent = otherExponent := by
  have positive := canonical.value_pos
  have otherPositive := otherCanonical.value_pos
  cases sign with
  | positive =>
      cases otherSign with
      | positive => exact ⟨rfl, canonical.unique otherCanonical same⟩
      | negative =>
          simp only [Sign.apply, Int.cast_neg, Int.cast_natCast, neg_mul] at same
          linarith
  | negative =>
      simp only [Sign.apply, Int.cast_neg, Int.cast_natCast, neg_mul] at same
      cases otherSign with
      | positive =>
          simp only [Int.cast_natCast] at same
          linarith
      | negative =>
          simp only [Int.cast_neg, Int.cast_natCast, neg_mul] at same
          exact ⟨rfl, canonical.unique otherCanonical (neg_injective same)⟩

theorem beq_iff_value_eq {left right : Float} {value otherValue : Rat}
    (isValue : value? left = some value) (isOther : value? right = some otherValue) :
    (left == right) = true ↔ value = otherValue := by
  change left.toModel.unpack.beq right.toModel.unpack = true ↔ _
  rw [beq_iff]
  rcases value?_eq_some isValue with
    ⟨sign, unpacked, rfl⟩ | ⟨sign, significand, exponent, positive, unpacked, canonical, rfl⟩
  · rcases value?_eq_some isOther with
      ⟨otherSign, otherUnpacked, rfl⟩ | ⟨_, _, _, _, otherUnpacked, otherCanonical, rfl⟩
    · rw [unpacked, otherUnpacked]
      exact iff_of_true (.zeros sign otherSign) rfl
    · rw [unpacked, otherUnpacked]
      exact iff_of_false nofun otherCanonical.signed_ne_zero.symm
  · rcases value?_eq_some isOther with
      ⟨otherSign, otherUnpacked, rfl⟩ | ⟨_, _, _, _, otherUnpacked, otherCanonical, rfl⟩
    · rw [unpacked, otherUnpacked]
      exact iff_of_false nofun canonical.signed_ne_zero
    · rw [unpacked, otherUnpacked]
      constructor
      · rintro ⟨⟩
        rfl
      · intro same
        obtain ⟨rfl, rfl, rfl⟩ := canonical.signed_unique otherCanonical same
        exact .same nofun

private theorem roundWithAccuracy_ne_notANumber {accuracy : UnpackedFloat.Accuracy} :
    roundWithAccuracy .binary64 sign significand exponent accuracy ≠ .notANumber := by
  rcases roundWithAccuracy_eq sign rfl rfl with ⟨-, rounded⟩ | ⟨_, rounded⟩
  · exact rounded ▸ nofun
  · exact rounded ▸ nofun

private theorem mul_ne_notANumber {otherSign : Sign} {positive : 0 < significand}
    {otherPositive : 0 < other} :
    UnpackedFloat.mul .binary64 (.finite sign significand exponent positive)
      (.finite otherSign other otherExponent otherPositive) ≠ .notANumber :=
  roundWithAccuracy_ne_notANumber

private theorem exists_ofNat_eq_of_le {number : Nat} (large : 2 ^ 53 ≤ number) :
    ∃ unpacked, unpacked ≠ .notANumber ∧
      Float.ofNat number = Float.ofModel (Float.Model.pack unpacked) := by
  refine ⟨UnpackedFloat.ofScientific .binary64 number 0, ?_, ?_⟩
  · rw [ofScientific_eq_mul (by omega)]
    exact mul_ne_notANumber
  · change Float.ofScientific number false 0 = _
    rw [Float.ofScientific, dif_neg (by omega)]
    rfl

/-- Integers are converted to doubles that equal themselves, however large they are. -/
theorem beq_self_ofInt (number : Int) : (Float.ofInt number == Float.ofInt number) = true := by
  by_cases small : number.natAbs ≤ 2 ^ 53
  · have isValue := value?_ofInt_of_natAbs_le small
    exact (beq_iff_value_eq isValue isValue).mpr rfl
  · cases number with
    | ofNat natural =>
        have large : 2 ^ 53 ≤ natural := (Nat.lt_of_not_le small).le
        obtain ⟨unpacked, isNumber, same⟩ := exists_ofNat_eq_of_le large
        rw [Float.ofInt, same]
        exact beq_self_ofModel_pack isNumber
    | negSucc natural =>
        have large : 2 ^ 53 ≤ natural + 1 := (Nat.lt_of_not_le small).le
        obtain ⟨unpacked, isNumber, same⟩ := exists_ofNat_eq_of_le large
        have negated : (Float.Model.pack unpacked).unpack.neg ≠ .notANumber := by
          have packed := unpack_pack_ne_notANumber isNumber
          cases number : (Float.Model.pack unpacked).unpack with
          | notANumber => exact absurd number packed
          | infinity sign | zero sign | finite sign _ _ _ => exact nofun
        rw [Float.ofInt, same]
        exact beq_self_ofModel_pack negated

private theorem beq_iff_compare {left right : Float} :
    (left == right) = true ↔ left.toModel.unpack.compare right.toModel.unpack = some .eq := by
  change left.toModel.unpack.beq right.toModel.unpack = true ↔ _
  exact beq_iff_eq

theorem lt_iff_compare {left right : Float} :
    left < right ↔ left.toModel.unpack.compare right.toModel.unpack = some .lt := by
  change decide (left.toModel.unpack.lt right.toModel.unpack = true) = true ↔ _
  rw [decide_eq_true_iff, UnpackedFloat.lt, beq_iff_eq]

private theorem compare_finite_of_compare_zero {unpacked : UnpackedFloat}
    {positive : 0 < significand} (le : unpacked.compare (.zero .positive) = some .lt ∨
      unpacked.compare (.zero .positive) = some .eq) :
    unpacked.compare (.finite .positive significand exponent positive) = some .lt := by
  cases unpacked with
  | notANumber => exact le.elim nofun nofun
  | zero sign => rfl
  | infinity sign =>
      cases sign with
      | positive => exact le.elim nofun nofun
      | negative => rfl
  | finite sign other otherExponent otherPositive =>
      cases sign with
      | positive => exact le.elim nofun nofun
      | negative => rfl

private theorem packComponents_unpack (bits : BitVec Format.binary64.numBits) :
    UnpackedFloat.packComponents .binary64 (Sign.ofBitVec (UnpackedFloat.unpackSign bits))
      (UnpackedFloat.unpackExponent bits) (UnpackedFloat.unpackMantissa bits) = bits := by
  have sign (bit : BitVec 1) : (Sign.ofBitVec bit).toBitVec = bit := by
    revert bit
    decide
  have last : UnpackedFloat.unpackSign bits = BitVec.cast rfl (bits.extractLsb 63 63) := rfl
  rw [UnpackedFloat.packComponents, sign]
  change BitVec 64 at bits
  refine BitVec.eq_of_getLsbD_eq fun index bound => ?_
  change index < 64 at bound
  simp only [BitVec.getLsbD_append, last, UnpackedFloat.unpackExponent,
    UnpackedFloat.unpackMantissa, BitVec.getLsbD_cast, BitVec.getLsbD_extractLsb]
  split
  · next low => simp [show index < 52 - 1 - 0 + 1 by omega]
  · next high =>
      split
      · next middle =>
          have place : 52 + (index - 52) = index := by omega
          simp [place, show index - 52 < 52 + 11 - 1 - 52 + 1 by omega]
      · next top =>
          have place : 52 + 11 + (index - 52 - 11) = index := by omega
          simp [place, show index - 52 - 11 < 52 + 11 - (52 + 11) + 1 by omega]

private theorem pack_unpack
    (isNumber : UnpackedFloat.unpack .binary64 bits ≠ .notANumber) :
    UnpackedFloat.pack .binary64 (UnpackedFloat.unpack .binary64 bits) = bits := by
  have whole := packComponents_unpack bits
  have fraction : (UnpackedFloat.unpackMantissa bits).toNat < 2 ^ 52 :=
    (UnpackedFloat.unpackMantissa bits).isLt
  have field : (UnpackedFloat.unpackExponent bits).toNat < 2 ^ 11 :=
    (UnpackedFloat.unpackExponent bits).isLt
  have view := unpacks bits
  generalize UnpackedFloat.unpack .binary64 bits = unpacked at view isNumber ⊢
  cases view with
  | infinity last zero =>
      rw [last, zero] at whole
      exact whole
  | notANumber => exact absurd rfl isNumber
  | zero first zero =>
      rw [first, zero] at whole
      exact whole
  | subnormal first positive =>
      have short : (UnpackedFloat.unpackMantissa bits).toNat.log2 + 1 ≠ 53 := by
        have := (Nat.log2_lt positive.ne').mpr fraction
        omega
      rw [pack_of_short positive (by decide) short, BitVec.ofNat_toNat, BitVec.setWidth_eq]
      rwa [first] at whole
  | normal notFirst notLast positive =>
      have biased : ((UnpackedFloat.unpackExponent bits).toNat -
          ((1023 : Nat) + (52 : Nat) : Int) + (1023 : Nat) + (52 : Nat)).toNat =
            (UnpackedFloat.unpackExponent bits).toNat := by omega
      have leading : (1#1 ++ UnpackedFloat.unpackMantissa bits).toNat.log2 + 1 = 53 := by
        rw [toNat_leadingBit, (Nat.log2_eq_iff (by omega)).mpr ⟨Nat.le_add_right .., by omega⟩]
      have low : BitVec.ofNat 52 (1#1 ++ UnpackedFloat.unpackMantissa bits).toNat =
          UnpackedFloat.unpackMantissa bits := by
        refine BitVec.eq_of_toNat_eq ?_
        rw [toNat_leadingBit, BitVec.toNat_ofNat, Nat.add_mod_left, Nat.mod_eq_of_lt fraction]
      rw [pack_of_leading positive (by omega) leading, biased, low, BitVec.ofNat_toNat,
        BitVec.setWidth_eq]
      exact whole

theorem eq_or_zeros_of_beq {left right : Float} (equal : (left == right) = true) :
    left = right ∨ (left = 0 ∧ right = -0) ∨ left = -0 ∧ right = 0 := by
  have positive : (0 : Float).toModel.unpack = .zero .positive := rfl
  have negative : (-0 : Float).toModel.unpack = .zero .negative := rfl
  have same {first second : Float} (isNumber : first.toModel.unpack ≠ .notANumber)
      (alike : first.toModel.unpack = second.toModel.unpack) : first = second := by
    have bits : first.toModel.toBits.toBitVec = second.toModel.toBits.toBitVec := by
      rw [← pack_unpack isNumber]
      exact (congrArg _ alike).trans (pack_unpack fun none => isNumber (alike.trans none))
    cases first with
    | ofModel first =>
        cases second with
        | ofModel second =>
            cases first
            cases second
            cases UInt64.eq_of_toBitVec_eq bits
            rfl
  change left.toModel.unpack.beq right.toModel.unpack = true at equal
  have isZero {double zero : Float} {sign : Sign} (unpacked : double.toModel.unpack = .zero sign)
      (known : zero.toModel.unpack = .zero sign) : double = zero :=
    same (unpacked ▸ nofun) (unpacked.trans known.symm)
  have unpacked := beq_iff.mp equal
  generalize leftUnpacked : left.toModel.unpack = first at unpacked
  generalize rightUnpacked : right.toModel.unpack = second at unpacked
  cases unpacked with
  | same isNumber =>
      exact .inl (same (leftUnpacked ▸ isNumber) (leftUnpacked.trans rightUnpacked.symm))
  | zeros sign other =>
      cases sign with
      | positive =>
          cases other with
          | positive => exact .inl (isZero leftUnpacked rightUnpacked)
          | negative =>
              exact .inr (.inl ⟨isZero leftUnpacked positive, isZero rightUnpacked negative⟩)
      | negative =>
          cases other with
          | positive =>
              exact .inr (.inr ⟨isZero leftUnpacked negative, isZero rightUnpacked positive⟩)
          | negative => exact .inl (isZero leftUnpacked rightUnpacked)

end Double

namespace MatchResult

private theorem lt_smallestMismatch {distance : Float}
    (le : distance < 0 ∨ (distance == 0) = true) :
    distance < smallestMismatch := by
  have smallest : (smallestMismatch : Float).toModel.unpack =
      .finite .positive 4611686018427388 (-62) (by decide) := rfl
  have zero : (0 : Float).toModel.unpack = .zero .positive := rfl
  rw [Double.lt_iff_compare, Double.beq_iff_compare, zero] at le
  rw [Double.lt_iff_compare, smallest]
  exact Double.compare_finite_of_compare_zero le

private theorem isExact_graded_max_float {distance : Float} (finite : Scalar.isFinite distance) :
    (graded (Scalar.max distance smallestMismatch)).isExact = false := by
  by_cases small : distance < smallestMismatch
  · have greater : Scalar.max distance smallestMismatch = smallestMismatch :=
      if_pos (decide_eq_true small)
    rw [greater]
    decide +kernel
  · have greater : Scalar.max distance smallestMismatch = distance :=
      if_neg fun less => small (of_decide_eq_true less)
    have notBelow : ¬ Scalar.lt distance Scalar.zero = true :=
      fun below => small (lt_smallestMismatch (.inl (of_decide_eq_true below)))
    rw [greater, graded, if_pos finite, Scalar.clamp, if_neg notBelow]
    split
    · decide +kernel
    · exact Bool.eq_false_iff.mpr fun zero => small (lt_smallestMismatch (.inr zero))

instance : DecidesExactness Float where
  isExact_exact := by decide +kernel
  isExact_mismatch distance := by
    rw [mismatch]
    split
    · next finite => exact isExact_graded_max_float finite
    · decide +kernel

end MatchResult

end ServiceStub
