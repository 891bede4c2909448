import Mathlib.Algebra.Order.Field.Rat
import Mathlib.Algebra.Order.Field.Power
import Mathlib.Tactic.Linarith
import Mathlib.Tactic.NormNum
import Mathlib.Tactic.Positivity
import Mathlib.Tactic.Ring
import ServiceStub.Decimal.Shortest

/-!
The shortest decimal of a double lies within the interval of the reals that read back as the
double.  The intervals of different doubles have no real in common, so the decimal tells the
double.
-/

namespace ServiceStub.Decimal

def Scaled.value (scaled : Scaled) : Rat := scaled.digits * 10 ^ scaled.exponent

private theorem Scaled.value_stripZeros (bound : Nat) (scaled : Scaled) :
    (scaled.stripZeros bound).value = scaled.value := by
  induction bound generalizing scaled with
  | zero => rfl
  | succ bound induction =>
      rw [stripZeros]
      split
      · next strips =>
          have divides : scaled.digits = scaled.digits / 10 * 10 := by
            simp only [Bool.and_eq_true, beq_iff_eq] at strips
            omega
          rw [induction, value, value]
          conv => rhs; rw [divides]
          push_cast
          rw [zpow_add₀ (by norm_num : (10 : Rat) ≠ 0)]
          ring
      · rfl

theorem zpow_of_nonneg {exponent : Int} (nonneg : 0 ≤ exponent) :
    (10 : Rat) ^ exponent = ((10 ^ exponent.toNat : Nat) : Rat) := by
  rw [Nat.cast_pow, ← zpow_natCast, Int.toNat_of_nonneg nonneg, Nat.cast_ofNat]

private theorem zpow_mul_pow_toNat {exponent : Int} (nonpos : exponent ≤ 0) :
    (10 : Rat) ^ exponent * ((10 ^ (-exponent).toNat : Nat) : Rat) = 1 := by
  rw [Nat.cast_pow, ← zpow_natCast, Int.toNat_of_nonneg (by omega), Nat.cast_ofNat,
    ← zpow_add₀ (by norm_num), add_neg_cancel, zpow_zero]

namespace Rounding

def Contains (rounding : Rounding) (value : Rat) : Prop :=
  if rounding.closed then
    rounding.low ≤ value * rounding.denominator ∧ value * rounding.denominator ≤ rounding.high
  else rounding.low < value * rounding.denominator ∧ value * rounding.denominator < rounding.high

variable {rounding : Rounding}

private theorem holds_iff {candidate : Nat} :
    rounding.holds candidate ↔ rounding.Contains candidate := by
  simp only [holds, Contains]
  split <;> simp only [Bool.and_eq_true, decide_eq_true_eq] <;> norm_cast

/-- An interval measured in a unit contains as many units as what the units come to. -/
theorem contains_inUnits_iff {exponent : Int} {value : Rat} :
    (rounding.inUnits exponent).Contains value ↔ rounding.Contains (value * 10 ^ exponent) := by
  rw [inUnits]
  split
  · next nonneg =>
      have scaled : value * ((rounding.denominator * Nat.pow 10 exponent.toNat : Nat) : Rat) =
          value * 10 ^ exponent * rounding.denominator := by
        rw [zpow_of_nonneg nonneg, Nat.cast_mul, Nat.pow_eq]
        ring
      simp only [Contains, scaled]
  · next negative =>
      have power := zpow_mul_pow_toNat (Int.le_of_lt (Int.not_le.mp negative))
      have positive : (0 : Rat) < ((10 ^ (-exponent).toNat : Nat) : Rat) := by positivity
      have scaled : value * rounding.denominator = value * 10 ^ exponent * rounding.denominator *
          ((10 ^ (-exponent).toNat : Nat) : Rat) := by
        rw [← mul_one (value * rounding.denominator), ← power]
        ring
      simp only [Contains, Nat.cast_mul, Nat.pow_eq, scaled, mul_le_mul_iff_left₀ positive,
        mul_lt_mul_iff_left₀ positive]

private theorem contains_of_nearest? {candidate : Nat}
    (found : rounding.nearest? = some candidate) :
    rounding.Contains candidate := by
  rw [← holds_iff]
  simp only [nearest?] at found
  split at found
  · next below _ =>
      cases found
      exact below
  · next above =>
      cases found
      exact above
  · cases found
  · next below above =>
      split at found
      · cases found
        exact below
      · split at found
        · cases found
          exact above
        · cases found
          split
          · exact below
          · exact above

private theorem contains_of_search {places : Int} {remaining digits : Nat} {found : Scaled}
    (searched : rounding.search places remaining digits = some found) :
    rounding.Contains found.value := by
  induction remaining generalizing digits with
  | zero => cases searched
  | succ remaining induction =>
      simp only [search] at searched
      split at searched
      · next candidate near =>
          cases searched
          exact contains_inUnits_iff.mp (contains_of_nearest? near)
      · exact induction searched

private theorem nearest?_eq_none_of_search {places : Int} {remaining digits : Nat}
    (searched : rounding.search places remaining digits = none) {tried : Nat} (le : digits ≤ tried)
    (lt : tried < digits + remaining) : (rounding.inUnits (places - tried)).nearest? = none := by
  induction remaining generalizing digits with
  | zero => omega
  | succ remaining induction =>
      simp only [search] at searched
      split at searched
      · cases searched
      · next missed =>
          rcases Nat.eq_or_lt_of_le le with rfl | later
          · exact missed
          · exact induction searched later (by omega)

private theorem nearest?_ne_none (le : rounding.low ≤ rounding.middle)
    (positive : 0 < rounding.denominator)
    (fits : rounding.middle + rounding.denominator < rounding.high) : rounding.nearest? ≠ none := by
  have above : rounding.holds (rounding.middle / rounding.denominator + 1) := by
    have least : rounding.middle <
        (rounding.middle / rounding.denominator + 1) * rounding.denominator := by
      rw [Nat.mul_comm]
      exact Nat.lt_mul_div_succ _ positive
    have greatest : (rounding.middle / rounding.denominator + 1) * rounding.denominator ≤
        rounding.middle + rounding.denominator := by
      rw [Nat.add_mul, Nat.one_mul]
      exact Nat.add_le_add_right (Nat.div_mul_le_self ..) _
    simp only [holds]
    split <;> simp only [Bool.and_eq_true, decide_eq_true_eq] <;> omega
  simp only [nearest?, above]
  cases rounding.holds (rounding.middle / rounding.denominator) with
  | false => exact nofun
  | true =>
      dsimp only
      split
      · exact nofun
      · split <;> exact nofun

private theorem le_leading {bound numerator : Nat}
    (reached : rounding.denominator ≤ numerator * 10 ^ bound) :
    places.leading rounding bound numerator ≤ 0 ∧ rounding.denominator ≤
      numerator * 10 ^ (1 - places.leading rounding bound numerator).toNat := by
  induction bound generalizing numerator with
  | zero =>
      rw [places.leading]
      rw [pow_zero, Nat.mul_one] at reached
      exact ⟨le_rfl, by simpa using Nat.le_trans reached (Nat.le_mul_of_pos_right _ (by decide))⟩
  | succ bound induction =>
      rw [places.leading]
      split
      · next enough => exact ⟨le_rfl, by simpa using enough⟩
      · have later : rounding.denominator ≤ numerator * 10 * 10 ^ bound := by
          rwa [Nat.mul_assoc, ← Nat.pow_succ']
        obtain ⟨nonpos, le⟩ := induction later
        refine ⟨by omega, ?_⟩
        have shifted : (1 - (places.leading rounding bound (numerator * 10) - 1)).toNat =
            (1 - places.leading rounding bound (numerator * 10)).toNat + 1 := by omega
        rwa [shifted, Nat.pow_succ', ← Nat.mul_assoc]

private theorem pow_length_toDigits_le {number : Nat} (nonzero : number ≠ 0) :
    10 ^ ((Nat.toDigits 10 number).length - 1) ≤ number := by
  by_contra less
  rw [Nat.not_le] at less
  by_cases single : (Nat.toDigits 10 number).length - 1 = 0
  · rw [single, pow_zero] at less
    exact nonzero (Nat.lt_one_iff.mp less)
  · have shorter :=
      (Nat.length_toDigits_le_iff (by decide) (Nat.pos_of_ne_zero single)).mpr less
    have length := @Nat.length_toDigits_pos 10 number
    omega

private theorem pow_places_le {bound : Nat} (positive : 0 < rounding.denominator)
    (reached : rounding.denominator ≤ rounding.middle * 10 ^ bound) :
    (10 : Rat) ^ (rounding.places bound - 1) * rounding.denominator ≤ rounding.middle := by
  rw [places]
  split
  · next whole =>
      have length := @Nat.length_toDigits_pos 10 (rounding.middle / rounding.denominator)
      have power : (10 : Rat) ^
          (((Nat.toDigits 10 (rounding.middle / rounding.denominator)).length : Int) - 1) =
            ((10 ^ ((Nat.toDigits 10 (rounding.middle / rounding.denominator)).length - 1) : Nat) :
              Rat) := by
        rw [Nat.cast_pow, ← zpow_natCast, Nat.cast_sub length, Nat.cast_one, Nat.cast_ofNat]
      rw [power]
      exact_mod_cast Nat.le_trans
        (Nat.mul_le_mul_right _ (pow_length_toDigits_le (Nat.div_pos whole positive).ne'))
        (Nat.div_mul_le_self ..)
  · obtain ⟨nonpos, le⟩ := le_leading reached
    have power := @zpow_mul_pow_toNat (places.leading rounding bound rounding.middle - 1) (by omega)
    rw [neg_sub] at power
    calc (10 : Rat) ^ (places.leading rounding bound rounding.middle - 1) * rounding.denominator
        ≤ 10 ^ (places.leading rounding bound rounding.middle - 1) *
            ((rounding.middle * 10 ^ (1 - places.leading rounding bound rounding.middle).toNat :
              Nat) : Rat) := by
          gcongr
      _ = rounding.middle := by
          rw [Nat.cast_mul, mul_left_comm, power, mul_one]

private theorem inUnits_fits {exponent : Int}
    (fits : (10 : Rat) ^ exponent * rounding.denominator + rounding.middle < rounding.high) :
    (rounding.inUnits exponent).middle + (rounding.inUnits exponent).denominator <
      (rounding.inUnits exponent).high := by
  rw [inUnits]
  split
  · next nonneg =>
      rw [zpow_of_nonneg nonneg] at fits
      have natural :
          10 ^ exponent.toNat * rounding.denominator + rounding.middle < rounding.high := by
        exact_mod_cast fits
      rw [Nat.mul_comm] at natural
      dsimp only
      rw [Nat.pow_eq]
      omega
  · next negative =>
      have power := zpow_mul_pow_toNat (Int.le_of_lt (Int.not_le.mp negative))
      have positive : (0 : Rat) < ((10 ^ (-exponent).toNat : Nat) : Rat) := by positivity
      have scaled := mul_lt_mul_of_pos_right fits positive
      rw [add_mul, mul_right_comm, power, one_mul] at scaled
      have natural : rounding.denominator + rounding.middle * 10 ^ (-exponent).toNat <
          rounding.high * 10 ^ (-exponent).toNat := by
        exact_mod_cast scaled
      dsimp only
      rw [Nat.pow_eq]
      omega

/-- A unit that fits between the middle and the upper end has a multiple in the interval. -/
theorem nearest?_inUnits_ne_none {exponent : Int} (le : rounding.low ≤ rounding.middle)
    (positive : 0 < rounding.denominator)
    (fits : (10 : Rat) ^ exponent * rounding.denominator + rounding.middle < rounding.high) :
    (rounding.inUnits exponent).nearest? ≠ none := by
  refine nearest?_ne_none ?_ ?_ (inUnits_fits fits)
  · rw [inUnits]
    split
    · exact le
    · exact Nat.mul_le_mul_right _ le
  · rw [inUnits]
    split
    · exact Nat.mul_pos positive (Nat.pow_pos (by decide))
    · exact positive

end Rounding

/-- The significand of a double has 53 bits, and less only if the exponent is the least one. -/
structure Binary.IsDouble (value : Binary) : Prop where
  bound : value.significand < 2 ^ 53
  least : -1074 ≤ value.exponent
  filled : 2 ^ 52 ≤ value.significand ∨ value.exponent = -1074

namespace Rounding

variable {value other : Binary}

/-- How far the interval reaches down, in quarters of the last bit: below a power of two the doubles
stand closer together. -/
def reach (value : Binary) : Nat :=
  if value.significand == Nat.pow 2 52 && -1074 < value.exponent then 1 else 2

private theorem reach_cases (value : Binary) :
    (reach value = 1 ∧ value.significand = 2 ^ 52) ∨
      reach value = 2 ∧ (value.significand = 2 ^ 52 → value.exponent ≤ -1074) := by
  rw [reach]
  split
  · next boundary => exact .inl ⟨rfl, by simpa using (Bool.and_eq_true_iff.mp boundary).1⟩
  · next inner => exact .inr ⟨rfl, fun same => by simpa [same] using inner⟩

def inQuarters (value : Binary) (scale shift : Nat) : Rounding where
  low := (4 * value.significand - reach value) * 2 ^ scale
  middle := 4 * value.significand * 2 ^ scale
  high := (4 * value.significand + 2) * 2 ^ scale
  denominator := 2 ^ shift
  closed := value.significand % 2 == 0

private theorem exists_inQuarters (isDouble : value.IsDouble) :
    ∃ scale shift : Nat, (scale : Int) - shift = value.exponent - 2 ∧ shift ≤ 1076 ∧
      ofBinary .double value = inQuarters value scale shift := by
  have least := isDouble.least
  by_cases large : 2 ≤ value.exponent
  · refine ⟨(value.exponent - 2).toNat, 0, by omega, by decide, ?_⟩
    simp only [ofBinary, if_pos large]
    rfl
  · refine ⟨0, (2 - value.exponent).toNat, by omega, by omega, ?_⟩
    simp only [ofBinary, if_neg large]
    rfl

private theorem two_pow_le_ten_pow {shift bound : Nat} (le : shift ≤ 3 * bound) :
    2 ^ shift ≤ 10 ^ bound :=
  calc 2 ^ shift ≤ 2 ^ (3 * bound) := Nat.pow_le_pow_right (by decide) le
    _ = (2 ^ 3) ^ bound := Nat.pow_mul ..
    _ ≤ 10 ^ bound := Nat.pow_le_pow_left (by decide) bound

/-- Within twenty-five digits a decimal of the interval is found. -/
theorem search_ne_none (isDouble : value.IsDouble) (nonzero : value.significand ≠ 0) :
    (ofBinary .double value).search ((ofBinary .double value).places 400) 25 1 ≠ none := by
  obtain ⟨scale, shift, -, shiftBound, same⟩ := exists_inQuarters isDouble
  have scalePositive := Nat.two_pow_pos scale
  have positive : 0 < (inQuarters value scale shift).denominator := Nat.two_pow_pos shift
  have bound : 4 * value.significand < 10 ^ 24 * 2 := by
    have small := isDouble.bound
    omega
  have middle : 0 < (inQuarters value scale shift).middle :=
    Nat.mul_pos (Nat.mul_pos (by decide) (Nat.pos_of_ne_zero nonzero)) scalePositive
  have reached : (inQuarters value scale shift).denominator ≤
      (inQuarters value scale shift).middle * 10 ^ 400 :=
    Nat.le_trans (two_pow_le_ten_pow (Nat.le_trans shiftBound (by decide)))
      (Nat.le_mul_of_pos_left _ middle)
  have low : (inQuarters value scale shift).low ≤ (inQuarters value scale shift).middle :=
    Nat.mul_le_mul_right _ (Nat.sub_le ..)
  have narrow : (inQuarters value scale shift).middle < 2 * 2 ^ scale * 10 ^ 24 :=
    calc 4 * value.significand * 2 ^ scale < 10 ^ 24 * 2 * 2 ^ scale :=
          Nat.mul_lt_mul_of_pos_right bound scalePositive
      _ = 2 * 2 ^ scale * 10 ^ 24 := by rw [Nat.mul_assoc, Nat.mul_comm]
  have upper : (inQuarters value scale shift).high =
      (inQuarters value scale shift).middle + 2 * 2 ^ scale :=
    Nat.add_mul ..
  have places_le := pow_places_le positive reached
  rw [same]
  generalize inQuarters value scale shift = rounding at *
  intro searched
  generalize rounding.places 400 = places at *
  have split : (10 : Rat) ^ (places - (25 : Nat)) = 10 ^ (places - 1) / 10 ^ 24 := by
    rw [eq_div_iff (by norm_num), ← zpow_natCast, ← zpow_add₀ (by norm_num)]
    congr 1
    omega
  have fits : (10 : Rat) ^ (places - (25 : Nat)) * rounding.denominator + rounding.middle <
      rounding.high := by
    rw [split, upper, Nat.cast_add, add_comm, add_lt_add_iff_left, div_mul_eq_mul_div,
      div_lt_iff₀ (by norm_num)]
    exact lt_of_le_of_lt places_le (by exact_mod_cast narrow)
  exact nearest?_inUnits_ne_none low positive fits
    (nearest?_eq_none_of_search searched (by decide) (by decide))

end Rounding

open Rounding (ofBinary)

variable {value other : Binary}

private theorem contains_shortest (isDouble : value.IsDouble) (nonzero : value.significand ≠ 0) :
    (ofBinary .double value).Contains (shortest .double value).value := by
  have different : (value.significand == 0) = false := beq_false_of_ne nonzero
  rw [shortest, different, if_neg Bool.false_ne_true]
  dsimp only
  split
  · next found searched =>
      rw [Scaled.value_stripZeros]
      exact Rounding.contains_of_search searched
  · next missed => exact absurd missed (Rounding.search_ne_none isDouble nonzero)

namespace Rounding

private theorem le_of_contains {rounding : Rounding} {real : Rat}
    (contains : rounding.Contains real) :
    rounding.low ≤ real * rounding.denominator ∧ real * rounding.denominator ≤ rounding.high ∧
      (rounding.closed = false →
        rounding.low < real * rounding.denominator ∧
          real * rounding.denominator < rounding.high) := by
  rw [Contains] at contains
  split at contains
  · next closed => exact ⟨contains.1, contains.2, fun opened => by simp [opened] at closed⟩
  · exact ⟨contains.1.le, contains.2.le, fun _ => contains⟩

private theorem low_le_high {left right : Rounding} {real : Rat} (inLeft : left.Contains real)
    (inRight : right.Contains real) (leftPositive : 0 < left.denominator)
    (rightPositive : 0 < right.denominator) :
    left.low * right.denominator ≤ right.high * left.denominator ∧
      (left.closed = false ∨ right.closed = false →
        left.low * right.denominator < right.high * left.denominator) := by
  obtain ⟨low, -, lowStrict⟩ := le_of_contains inLeft
  obtain ⟨-, high, highStrict⟩ := le_of_contains inRight
  have leftCast : (0 : Rat) < left.denominator := by exact_mod_cast leftPositive
  have rightCast : (0 : Rat) < right.denominator := by exact_mod_cast rightPositive
  have lower := mul_le_mul_of_nonneg_right low rightCast.le
  have upper := mul_le_mul_of_nonneg_right high leftCast.le
  rw [mul_right_comm] at upper
  refine ⟨by exact_mod_cast lower.trans upper, ?_⟩
  rintro (opened | opened)
  · have strict := mul_lt_mul_of_pos_right (lowStrict opened).1 rightCast
    exact_mod_cast strict.trans_le upper
  · have strict := mul_lt_mul_of_pos_right (highStrict opened).2 leftCast
    rw [mul_right_comm] at strict
    exact_mod_cast lower.trans_lt strict

/-- How two doubles stand whose intervals overlap, in quarters of the last bit of the lower one. -/
theorem overlap {value other : Binary} {gap : Nat} (apart : other.exponent = value.exponent + gap)
    (isDouble : value.IsDouble) (isOther : other.IsDouble) {real : Rat}
    (inValue : (ofBinary .double value).Contains real)
    (inOther : (ofBinary .double other).Contains real) :
    ((4 * other.significand - reach other) * 2 ^ gap ≤ 4 * value.significand + 2 ∧
        (value.significand % 2 = 1 ∨ other.significand % 2 = 1 →
          (4 * other.significand - reach other) * 2 ^ gap < 4 * value.significand + 2)) ∧
      4 * value.significand - reach value ≤ (4 * other.significand + 2) * 2 ^ gap ∧
        (value.significand % 2 = 1 ∨ other.significand % 2 = 1 →
          4 * value.significand - reach value < (4 * other.significand + 2) * 2 ^ gap) := by
  obtain ⟨scale, shift, scaled, -, same⟩ := exists_inQuarters isDouble
  obtain ⟨otherScale, otherShift, otherScaled, -, otherSame⟩ := exists_inQuarters isOther
  rw [same] at inValue
  rw [otherSame] at inOther
  obtain ⟨upper, upperStrict⟩ :=
    low_le_high inOther inValue (Nat.two_pow_pos otherShift) (Nat.two_pow_pos shift)
  obtain ⟨lower, lowerStrict⟩ :=
    low_le_high inValue inOther (Nat.two_pow_pos shift) (Nat.two_pow_pos otherShift)
  have powers : 2 ^ otherScale * 2 ^ shift = 2 ^ gap * (2 ^ scale * 2 ^ otherShift) := by
    rw [← Nat.pow_add, ← Nat.pow_add, ← Nat.pow_add]
    congr 1
    omega
  have otherUnits (count : Nat) : count * 2 ^ otherScale * 2 ^ shift =
      count * 2 ^ gap * (2 ^ scale * 2 ^ otherShift) := by
    rw [Nat.mul_assoc, powers, Nat.mul_assoc]
  have units (count : Nat) : count * 2 ^ scale * 2 ^ otherShift =
      count * (2 ^ scale * 2 ^ otherShift) := Nat.mul_assoc ..
  have unit : 0 < 2 ^ scale * 2 ^ otherShift :=
    Nat.mul_pos (Nat.two_pow_pos scale) (Nat.two_pow_pos otherShift)
  have odd {number : Nat} : (number % 2 == 0) = false ↔ number % 2 = 1 := by
    rw [beq_eq_false_iff_ne]
    omega
  simp only [inQuarters, units, otherUnits, Nat.mul_le_mul_right_iff unit,
    Nat.mul_lt_mul_right unit, odd] at upper upperStrict lower lowerStrict
  exact ⟨⟨upper, fun open_ => upperStrict open_.symm⟩, lower, lowerStrict⟩

/-- The intervals of different doubles have no real in common. -/
theorem eq_of_contains {value other : Binary} (isDouble : value.IsDouble) (isOther : other.IsDouble)
    {real : Rat} (inValue : (ofBinary .double value).Contains real)
    (inOther : (ofBinary .double other).Contains real) :
    value.significand = other.significand ∧ value.exponent = other.exponent := by
  wlog le : value.exponent ≤ other.exponent generalizing value other
  · obtain ⟨significands, exponents⟩ := this isOther isDouble inOther inValue (by omega)
    exact ⟨significands.symm, exponents.symm⟩
  obtain ⟨gap, apart⟩ := Int.le.dest le
  obtain ⟨⟨upper, upperStrict⟩, lower, lowerStrict⟩ :=
    overlap apart.symm isDouble isOther inValue inOther
  obtain ⟨bound, least, filled⟩ := isDouble
  have reached := reach_cases value
  have otherReached := reach_cases other
  rcases Nat.eq_zero_or_pos gap with rfl | positive
  · -- In one binade neighbours meet in the middle, which belongs to the even one.
    rw [pow_zero, Nat.mul_one] at upper upperStrict lower lowerStrict
    omega
  · -- The lower double ends before the binade of the higher one begins.
    obtain ⟨otherBound, otherLeast, otherFilled⟩ := isOther
    have double : 2 ≤ 2 ^ gap := Nat.le_self_pow positive.ne' 2
    have least := Nat.mul_le_mul_left (4 * other.significand - reach other) double
    omega

private theorem pos_of_contains (isDouble : value.IsDouble) (nonzero : value.significand ≠ 0)
    {real : Rat} (contains : (ofBinary .double value).Contains real) : 0 < real := by
  obtain ⟨scale, shift, -, -, same⟩ := exists_inQuarters isDouble
  rw [same] at contains
  have positive : 0 < (inQuarters value scale shift).low := by
    refine Nat.mul_pos ?_ (Nat.two_pow_pos scale)
    rcases reach_cases value with ⟨one, -⟩ | ⟨two, -⟩ <;> omega
  have product : (0 : Rat) < real * (inQuarters value scale shift).denominator :=
    lt_of_lt_of_le (by exact_mod_cast positive) (le_of_contains contains).1
  exact pos_of_mul_pos_left product (Nat.cast_nonneg _)

end Rounding

private theorem shortest_of_zero (zero : value.significand = 0) :
    (shortest .double value).value = 0 := by
  rw [shortest, zero, if_pos (beq_self_eq_true 0), Scaled.value, Nat.cast_zero, zero_mul]

private theorem shortest_pos (isDouble : value.IsDouble) (nonzero : value.significand ≠ 0) :
    0 < (shortest .double value).value :=
  Rounding.pos_of_contains isDouble nonzero (contains_shortest isDouble nonzero)

/-- A double is told by its sign and its shortest decimal. -/
theorem Binary.eq_of_shortest (isDouble : value.IsDouble) (isOther : other.IsDouble)
    (signs : value.negative = other.negative)
    (same : (shortest .double value).value = (shortest .double other).value) : value = other := by
  have parts : value.significand = other.significand ∧ value.exponent = other.exponent := by
    by_cases zero : value.significand = 0
    · have otherZero : other.significand = 0 := by
        by_contra nonzero
        have positive := shortest_pos isOther nonzero
        rw [← same, shortest_of_zero zero] at positive
        exact lt_irrefl _ positive
      have least := isDouble.filled
      have otherLeast := isOther.filled
      omega
    · have otherNonzero : other.significand ≠ 0 := fun otherZero => by
        have positive := shortest_pos isDouble zero
        rw [same, shortest_of_zero otherZero] at positive
        exact lt_irrefl _ positive
      have inOther := contains_shortest isOther otherNonzero
      rw [← same] at inOther
      exact Rounding.eq_of_contains isDouble isOther (contains_shortest isDouble zero) inOther
  obtain ⟨significands, exponents⟩ := parts
  cases value
  cases other
  simp only at signs significands exponents
  rw [signs, significands, exponents]

namespace Binary

theorem ofFields_double (word : Nat) : ofFields .double 11 word =
    if word / 2 ^ 52 % 2 ^ 11 = 0 then ⟨word / 2 ^ 63 % 2 == 1, word % 2 ^ 52, -1074⟩
    else ⟨word / 2 ^ 63 % 2 == 1, 2 ^ 52 + word % 2 ^ 52,
      -1074 + (word / 2 ^ 52 % 2 ^ 11 - 1 : Nat)⟩ := by
  simp only [ofFields, beq_iff_eq]
  rfl

private theorem isDouble_ofFields (word : Nat) : (ofFields .double 11 word).IsDouble := by
  rw [ofFields_double]
  split
  · exact ⟨by dsimp only; omega, le_rfl, .inr rfl⟩
  · exact ⟨by dsimp only; omega, by dsimp only; omega, .inl (by dsimp only; omega)⟩

theorem isDouble_ofFloat (value : Float) : (ofFloat value).IsDouble := isDouble_ofFields _

private theorem word_eq_of_ofFields {left right : Nat} (leftBound : left < 2 ^ 64)
    (rightBound : right < 2 ^ 64) (same : ofFields .double 11 left = ofFields .double 11 right) :
    left = right := by
  rw [ofFields_double, ofFields_double] at same
  have flags {sign other : Nat} : ((sign == 1) = (other == 1)) ↔ (sign = 1 ↔ other = 1) := by
    rw [Bool.eq_iff_iff, beq_iff_eq, beq_iff_eq]
  -- The leading bit of a significand tells whether the exponent field is zero.
  by_cases least : left / 2 ^ 52 % 2 ^ 11 = 0 <;>
    by_cases otherLeast : right / 2 ^ 52 % 2 ^ 11 = 0 <;>
    simp only [least, otherLeast, if_true, if_false, mk.injEq, flags] at same <;>
    omega

theorem eq_of_ofFloat {left right : Float} (same : ofFloat left = ofFloat right) :
    left = right := by
  have bits := word_eq_of_ofFields left.toBits.toNat_lt right.toBits.toNat_lt same
  obtain ⟨⟨leftBits, _⟩⟩ := left
  obtain ⟨⟨rightBits, _⟩⟩ := right
  obtain rfl : leftBits = rightBits := UInt64.toNat_inj.mp bits
  rfl

end Binary

end ServiceStub.Decimal
