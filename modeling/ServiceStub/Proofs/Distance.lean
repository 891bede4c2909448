import ServiceStub.Proofs.Decimal.Order
import ServiceStub.Proofs.Decimal.Whole

/-!
Distances of any kind of number, exact or computed with doubles.  All that is asked of the numbers
is that the finite ones are ordered as the rationals they stand for.
-/

namespace ServiceStub

/-- Finite numbers stand for rationals and are compared as these.  Only zero may be written in more
than one way. -/
class OrderedScalar (R : Type) [Scalar R] where
  value : R → Rat
  lt_iff {left right : R} : Scalar.isFinite left → Scalar.isFinite right →
    (Scalar.lt left right ↔ value left < value right)
  eq_iff {left right : R} : Scalar.isFinite left → Scalar.isFinite right →
    (Scalar.eq left right ↔ value left = value right)
  eq_of_value {left right : R} : Scalar.isFinite left → Scalar.isFinite right →
    value left = value right → value left ≠ 0 → left = right
  isFinite_zero : Scalar.isFinite (Scalar.zero : R)
  value_zero : value Scalar.zero = 0
  isFinite_one : Scalar.isFinite (Scalar.one : R)
  value_one : value Scalar.one = 1
  isFinite_smallestMismatch : Scalar.isFinite (MatchResult.smallestMismatch : R)
  smallestMismatch_pos : 0 < value MatchResult.smallestMismatch

instance : OrderedScalar Rat where
  value number := number
  lt_iff _ _ := by simp
  eq_iff _ _ := by simp
  eq_of_value _ _ same _ := same
  isFinite_zero := rfl
  value_zero := rfl
  isFinite_one := rfl
  value_one := rfl
  isFinite_smallestMismatch := rfl
  smallestMismatch_pos := MatchResult.smallestMismatch_pos

namespace Double

def toRat (double : Float) : Rat := (value? double).getD 0

private theorem value?_of_isFinite {double : Float} (finite : Scalar.isFinite double) :
    value? double = some (toRat double) := by
  obtain ⟨value, isValue⟩ := isFinite_iff.mp finite
  rw [toRat, isValue, Option.getD_some]

private theorem eq_of_toRat {left right : Float} (leftFinite : Scalar.isFinite left)
    (rightFinite : Scalar.isFinite right) (same : toRat left = toRat right)
    (nonzero : toRat left ≠ 0) : left = right := by
  have equal := (beq_iff_value_eq (value?_of_isFinite leftFinite)
    (value?_of_isFinite rightFinite)).mpr same
  rcases eq_or_zeros_of_beq equal with equal | ⟨rfl, -⟩ | ⟨rfl, -⟩
  · exact equal
  · exact absurd rfl nonzero
  · exact absurd rfl nonzero

private theorem toRat_of_unpack {double : Float} {sign : Float.Model.UnpackedFloat.Sign}
    {significand : Nat} {exponent : Int} {positive : 0 < significand}
    (unpacked : double.toModel.unpack = .finite sign significand exponent positive) :
    toRat double = (sign.apply significand : Int) * 2 ^ exponent := by
  rw [toRat, value?, unpacked, Option.getD_some]

private theorem toRat_one : toRat Scalar.one = 1 := by
  have unpacked : (Scalar.one : Float).toModel.unpack =
      .finite .positive (2 ^ 52) (-52) (by decide) := rfl
  rw [toRat_of_unpack unpacked, Float.Model.UnpackedFloat.Sign.apply]
  norm_num

private theorem toRat_smallestMismatch_pos : 0 < toRat MatchResult.smallestMismatch := by
  have unpacked : (MatchResult.smallestMismatch : Float).toModel.unpack =
      .finite .positive 4611686018427388 (-62) (by decide) := rfl
  rw [toRat_of_unpack unpacked, Float.Model.UnpackedFloat.Sign.apply]
  positivity

end Double

instance : OrderedScalar Float where
  value := Double.toRat
  lt_iff {left right} leftFinite rightFinite := by
    change decide (left < right) = true ↔ _
    rw [decide_eq_true_iff]
    exact Double.lt_iff_value_lt (Double.value?_of_isFinite leftFinite)
      (Double.value?_of_isFinite rightFinite)
  eq_iff leftFinite rightFinite := Double.beq_iff_value_eq (Double.value?_of_isFinite leftFinite)
    (Double.value?_of_isFinite rightFinite)
  eq_of_value := Double.eq_of_toRat
  isFinite_zero := by decide +kernel
  value_zero := rfl
  isFinite_one := by decide +kernel
  value_one := Double.toRat_one
  isFinite_smallestMismatch := by decide +kernel
  smallestMismatch_pos := Double.toRat_smallestMismatch_pos

open OrderedScalar (value)

variable {R : Type} [Scalar R] [OrderedScalar R]

namespace Scalar

variable {left right : R}

theorem le_iff (leftFinite : isFinite left) (rightFinite : isFinite right) :
    le left right ↔ value left ≤ value right := by
  rw [le, Bool.or_eq_true, OrderedScalar.lt_iff leftFinite rightFinite,
    OrderedScalar.eq_iff leftFinite rightFinite, le_iff_lt_or_eq]

theorem value_max (leftFinite : isFinite left) (rightFinite : isFinite right) :
    value (Scalar.max left right) = Max.max (value left) (value right) := by
  rw [Scalar.max]
  split
  · next less =>
      rw [OrderedScalar.lt_iff leftFinite rightFinite] at less
      exact (max_eq_right less.le).symm
  · next notLess =>
      rw [OrderedScalar.lt_iff leftFinite rightFinite, not_lt] at notLess
      exact (max_eq_left notLess).symm

theorem value_min (leftFinite : isFinite left) (rightFinite : isFinite right) :
    value (Scalar.min left right) = Min.min (value left) (value right) := by
  rw [Scalar.min]
  split
  · next less =>
      rw [OrderedScalar.lt_iff rightFinite leftFinite] at less
      exact (min_eq_right less.le).symm
  · next notLess =>
      rw [OrderedScalar.lt_iff rightFinite leftFinite, not_lt] at notLess
      exact (min_eq_left notLess).symm

end Scalar

namespace MatchResult

variable {result other : MatchResult R} {results : List (MatchResult R)}

private theorem finite_noMatch : Scalar.isFinite (noMatch : MatchResult R).distance :=
  OrderedScalar.isFinite_one

private theorem finite_graded (distance : R) : Scalar.isFinite (graded distance).distance := by
  rw [graded]
  split
  · next finite =>
      rw [Scalar.clamp]
      split
      · exact OrderedScalar.isFinite_zero
      · split
        · exact OrderedScalar.isFinite_one
        · exact finite
  · exact finite_noMatch

theorem finite_weightedMean (entries : List (MatchResult R × R)) :
    Scalar.isFinite (weightedMean entries).distance := by
  rw [weightedMean]
  split
  · exact OrderedScalar.isFinite_zero
  · exact finite_graded _

/-- The distance is a number between zero and one, and zero is written as it is for exact
matches. -/
structure Measured (result : MatchResult R) : Prop where
  finite : Scalar.isFinite result.distance
  nonneg : 0 ≤ value result.distance
  le_one : value result.distance ≤ 1
  plain : value result.distance = 0 → result.distance = Scalar.zero

theorem measured_exact : (exact : MatchResult R).Measured where
  finite := OrderedScalar.isFinite_zero
  nonneg := OrderedScalar.value_zero.ge
  le_one := OrderedScalar.value_zero.trans_le zero_le_one
  plain _ := rfl

theorem measured_noMatch : (noMatch : MatchResult R).Measured where
  finite := finite_noMatch
  nonneg := zero_le_one.trans_eq OrderedScalar.value_one.symm
  le_one := OrderedScalar.value_one.le
  plain zero := absurd (OrderedScalar.value_one.symm.trans zero) one_ne_zero

theorem exact_ne_noMatch : (exact : MatchResult R) ≠ noMatch := by
  intro same
  have values := congrArg (fun result => value result.distance) same
  exact zero_ne_one ((OrderedScalar.value_zero.symm.trans values).trans OrderedScalar.value_one)

theorem measured_of (holds : Bool) : (of holds : MatchResult R).Measured := by
  cases holds with
  | true => exact measured_exact
  | false => exact measured_noMatch

theorem value_of_le_iff {holds : Bool} {bound : Rat} :
    value (of holds : MatchResult R).distance ≤ bound ↔ 0 ≤ bound ∧ (holds ∨ 1 ≤ bound) := by
  cases holds with
  | true =>
      change value (Scalar.zero : R) ≤ bound ↔ _
      simp [OrderedScalar.value_zero]
  | false =>
      change value (Scalar.one : R) ≤ bound ↔ _
      rw [OrderedScalar.value_one]
      simpa using zero_le_one.trans

theorem Measured.isExact_iff (measured : result.Measured) :
    result.isExact ↔ value result.distance = 0 := by
  rw [isExact, OrderedScalar.eq_iff measured.finite OrderedScalar.isFinite_zero,
    OrderedScalar.value_zero]

namespace Measured

private theorem eq_of_value (measured : result.Measured) (otherMeasured : other.Measured)
    (same : value result.distance = value other.distance) : result = other := by
  rw [MatchResult.mk.injEq]
  -- Zero is the one value that may be written in two ways.
  by_cases zero : value result.distance = 0
  · rw [measured.plain zero, otherMeasured.plain (same ▸ zero)]
  · exact OrderedScalar.eq_of_value measured.finite otherMeasured.finite same zero

/-- A result is told by the bounds that its distance keeps to. -/
theorem eq_of_forall_le (measured : result.Measured) (otherMeasured : other.Measured)
    (same : ∀ bound, value result.distance ≤ bound ↔ value other.distance ≤ bound) :
    result = other :=
  measured.eq_of_value otherMeasured (eq_of_forall_ge_iff same)

theorem max (measured : result.Measured) (otherMeasured : other.Measured) :
    (⟨Scalar.max result.distance other.distance⟩ : MatchResult R).Measured := by
  rw [Scalar.max]
  split
  · exact otherMeasured
  · exact measured

theorem min (measured : result.Measured) (otherMeasured : other.Measured) :
    (⟨Scalar.min result.distance other.distance⟩ : MatchResult R).Measured := by
  rw [Scalar.min]
  split
  · exact otherMeasured
  · exact measured

private theorem graded_distance (measured : result.Measured) : graded result.distance = result := by
  have notBelow : ¬ Scalar.lt result.distance Scalar.zero := by
    rw [OrderedScalar.lt_iff measured.finite OrderedScalar.isFinite_zero, OrderedScalar.value_zero]
    exact measured.nonneg.not_gt
  have notAbove : ¬ Scalar.lt Scalar.one result.distance := by
    rw [OrderedScalar.lt_iff OrderedScalar.isFinite_one measured.finite, OrderedScalar.value_one]
    exact measured.le_one.not_gt
  rw [graded, if_pos measured.finite, Scalar.clamp, if_neg notBelow, if_neg notAbove]

end Measured

private theorem measured_graded_of_pos {distance : R} (finite : Scalar.isFinite distance)
    (positive : 0 < value distance) : (graded distance).Measured := by
  have notBelow : ¬ Scalar.lt distance Scalar.zero := by
    rw [OrderedScalar.lt_iff finite OrderedScalar.isFinite_zero, OrderedScalar.value_zero]
    exact positive.not_gt
  rw [graded, if_pos finite, Scalar.clamp, if_neg notBelow]
  split
  · exact measured_noMatch
  · next notAbove =>
      rw [OrderedScalar.lt_iff OrderedScalar.isFinite_one finite, OrderedScalar.value_one,
        not_lt] at notAbove
      exact ⟨finite, positive.le, notAbove, fun zero => absurd zero positive.ne'⟩

theorem measured_mismatch (distance : R) : (mismatch distance).Measured := by
  rw [mismatch]
  split
  · next finite =>
      have smallest := OrderedScalar.isFinite_smallestMismatch (R := R)
      refine measured_graded_of_pos ?_ ?_
      · rw [Scalar.max]
        split
        · exact smallest
        · exact finite
      · rw [Scalar.value_max finite smallest]
        exact lt_max_of_lt_right OrderedScalar.smallestMismatch_pos
  · exact measured_noMatch

private theorem measured_foldl {choose : R → R → R} {first : R}
    (chosen : ∀ result other : MatchResult R, result.Measured → other.Measured →
      (⟨choose result.distance other.distance⟩ : MatchResult R).Measured)
    (measured : (⟨first⟩ : MatchResult R).Measured) (each : ∀ result ∈ results, result.Measured) :
    (⟨results.foldl (fun distance result => choose distance result.distance) first⟩ :
      MatchResult R).Measured := by
  induction results generalizing first with
  | nil => exact measured
  | cons result rest induction =>
      obtain ⟨second, others⟩ := List.forall_mem_cons.mp each
      exact induction (chosen _ _ measured second) others

private theorem value_foldl_max_le_iff {first : R} {bound : Rat}
    (measured : (⟨first⟩ : MatchResult R).Measured) (each : ∀ result ∈ results, result.Measured) :
    value (results.foldl (fun distance result => Scalar.max distance result.distance) first) ≤
        bound ↔
      value first ≤ bound ∧ ∀ result ∈ results, value result.distance ≤ bound := by
  induction results generalizing first with
  | nil => simp
  | cons result rest induction =>
      obtain ⟨second, others⟩ := List.forall_mem_cons.mp each
      rw [List.foldl_cons, induction (measured.max second) others,
        Scalar.value_max measured.finite second.finite, max_le_iff, and_assoc,
        List.forall_mem_cons]

private theorem value_foldl_min_le_iff {first : R} {bound : Rat}
    (measured : (⟨first⟩ : MatchResult R).Measured) (each : ∀ result ∈ results, result.Measured) :
    value (results.foldl (fun distance result => Scalar.min distance result.distance) first) ≤
        bound ↔
      value first ≤ bound ∨ ∃ result ∈ results, value result.distance ≤ bound := by
  induction results generalizing first with
  | nil => simp
  | cons result rest induction =>
      obtain ⟨second, others⟩ := List.forall_mem_cons.mp each
      rw [List.foldl_cons, induction (measured.min second) others,
        Scalar.value_min measured.finite second.finite, min_le_iff, or_assoc,
        List.exists_mem_cons_iff]

theorem measured_all (each : ∀ result ∈ results, result.Measured) : (all results).Measured := by
  cases results with
  | nil => exact measured_exact
  | cons first rest =>
      obtain ⟨measured, others⟩ := List.forall_mem_cons.mp each
      have folded := measured_foldl (fun _ _ => .max) measured others
      rw [all, folded.graded_distance]
      exact folded

theorem value_all_le_iff {bound : Rat} (each : ∀ result ∈ results, result.Measured) :
    value (all results).distance ≤ bound ↔
      0 ≤ bound ∧ ∀ result ∈ results, value result.distance ≤ bound := by
  cases results with
  | nil =>
      change value (Scalar.zero : R) ≤ bound ↔ _
      simp [OrderedScalar.value_zero]
  | cons first rest =>
      obtain ⟨measured, others⟩ := List.forall_mem_cons.mp each
      rw [all, (measured_foldl (fun _ _ => .max) measured others).graded_distance,
        value_foldl_max_le_iff measured others, List.forall_mem_cons]
      exact (and_iff_right_of_imp fun below => measured.nonneg.trans below.1).symm

theorem measured_any (each : ∀ result ∈ results, result.Measured) : (any results).Measured := by
  cases results with
  | nil => exact measured_noMatch
  | cons first rest =>
      obtain ⟨measured, others⟩ := List.forall_mem_cons.mp each
      have folded := measured_foldl (fun _ _ => .min) measured others
      rw [any, folded.graded_distance]
      exact folded

theorem value_any_le_iff {bound : Rat} (each : ∀ result ∈ results, result.Measured) :
    value (any results).distance ≤ bound ↔
      1 ≤ bound ∨ ∃ result ∈ results, value result.distance ≤ bound := by
  cases results with
  | nil =>
      change value (Scalar.one : R) ≤ bound ↔ _
      simp [OrderedScalar.value_one]
  | cons first rest =>
      obtain ⟨measured, others⟩ := List.forall_mem_cons.mp each
      rw [any, (measured_foldl (fun _ _ => .min) measured others).graded_distance,
        value_foldl_min_le_iff measured others, List.exists_mem_cons_iff]
      exact (or_iff_right_of_imp fun one => .inl (measured.le_one.trans one)).symm

end MatchResult

theorem OrderedScalar.isExact_of (holds : Bool) :
    (MatchResult.of holds : MatchResult R).isExact = holds := by
  rw [Bool.eq_iff_iff, (MatchResult.measured_of holds).isExact_iff]
  cases holds with
  | true => exact iff_of_true OrderedScalar.value_zero rfl
  | false =>
      change value (Scalar.one : R) = 0 ↔ _
      simp [OrderedScalar.value_one]

end ServiceStub
