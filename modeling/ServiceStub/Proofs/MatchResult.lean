import ServiceStub.MatchResult
import Mathlib.Algebra.Order.Field.Rat
import Mathlib.Tactic.Linarith
import Mathlib.Tactic.NormNum
import Mathlib.Tactic.Positivity

/-!
Distances as exact rationals: they lie between zero and one, and a combination of results is exact
when the results that decide it are.
-/

namespace ServiceStub

namespace Scalar

@[simp] theorem ofNat_rat (count : Nat) : (ofNat count : Rat) = count := rfl

@[simp] theorem isFinite_rat (value : Rat) : isFinite value = true := rfl

@[simp] theorem lt_rat (left right : Rat) : lt left right = decide (left < right) := rfl

@[simp] theorem eq_rat (left right : Rat) : eq left right = decide (left = right) := rfl

@[simp] theorem le_rat (left right : Rat) : le left right = decide (left ≤ right) := by
  simp [le, le_iff_lt_or_eq]

@[simp] theorem zero_rat : (zero : Rat) = 0 := rfl

@[simp] theorem one_rat : (one : Rat) = 1 := rfl

@[simp] theorem max_rat (left right : Rat) : Scalar.max left right = Max.max left right := by
  by_cases less : left < right
  · simp [Scalar.max, less, less.le]
  · simp [Scalar.max, less, not_lt.mp less]

@[simp] theorem min_rat (left right : Rat) : Scalar.min left right = Min.min left right := by
  by_cases less : right < left
  · simp [Scalar.min, less, less.le]
  · simp [Scalar.min, less, not_lt.mp less]

private theorem clamp_rat (value : Rat) : clamp value = Max.max 0 (Min.min value 1) := by
  simp only [clamp, lt_rat, decide_eq_true_eq, zero_rat, one_rat]
  split
  · next below => rw [min_eq_left (by linarith), max_eq_left below.le]
  · next notBelow =>
      split
      · next above => rw [min_eq_right above.le, max_eq_right zero_le_one]
      · next notAbove => rw [min_eq_left (not_lt.mp notAbove), max_eq_right (not_lt.mp notBelow)]

end Scalar

namespace MatchResult

structure InRange (result : MatchResult Rat) : Prop where
  nonneg : 0 ≤ result.distance
  le_one : result.distance ≤ 1

variable {result : MatchResult Rat} {results : List (MatchResult Rat)}

theorem isExact_iff : result.isExact ↔ result.distance = 0 := by
  simp [isExact]

private theorem InRange.isExact_iff_le (inRange : result.InRange) :
    result.isExact ↔ result.distance ≤ 0 := by
  rw [isExact_iff]
  exact ⟨fun same => same.le, fun below => le_antisymm below inRange.nonneg⟩

@[simp] theorem isExact_exact : (exact : MatchResult Rat).isExact := rfl

@[simp] theorem isExact_noMatch : (noMatch : MatchResult Rat).isExact = false := rfl

@[simp] theorem isExact_of (holds : Bool) : (of holds : MatchResult Rat).isExact = holds := by
  cases holds <;> rfl

theorem inRange_exact : (exact : MatchResult Rat).InRange := ⟨le_refl 0, zero_le_one⟩

theorem inRange_noMatch : (noMatch : MatchResult Rat).InRange := ⟨zero_le_one, le_refl 1⟩

theorem inRange_of (holds : Bool) : (of holds : MatchResult Rat).InRange := by
  cases holds with
  | true => exact inRange_exact
  | false => exact inRange_noMatch

theorem distance_graded (distance : Rat) :
    (graded distance).distance = max 0 (min distance 1) := by
  simp [graded, Scalar.clamp_rat]

private theorem inRange_graded (distance : Rat) : (graded distance).InRange where
  nonneg := by
    rw [distance_graded]
    exact le_max_left ..
  le_one := by
    rw [distance_graded]
    exact max_le zero_le_one (min_le_right ..)

private theorem isExact_graded_iff {distance : Rat} : (graded distance).isExact ↔ distance ≤ 0 := by
  rw [(inRange_graded distance).isExact_iff_le, distance_graded, max_le_iff, min_le_iff]
  constructor
  · rintro ⟨-, below | absurd⟩
    · exact below
    · linarith
  · exact fun below => ⟨le_refl 0, .inl below⟩

theorem mismatch_eq (distance : Rat) :
    mismatch distance = graded (max distance (smallestMismatch : Rat)) := by
  simp [mismatch]

theorem inRange_mismatch (distance : Rat) : (mismatch distance).InRange := by
  rw [mismatch_eq]
  exact inRange_graded _

theorem smallestMismatch_pos : (0 : Rat) < smallestMismatch := by
  norm_num [smallestMismatch, Scalar.ratio]

@[simp] theorem isExact_mismatch (distance : Rat) : (mismatch distance).isExact = false := by
  rw [Bool.eq_false_iff, mismatch_eq, ne_eq, isExact_graded_iff, not_le]
  exact lt_max_of_lt_right smallestMismatch_pos

/-- Single outcomes are exact or not, whatever their distances are computed with. -/
class DecidesExactness (R : Type) [Scalar R] : Prop where
  isExact_exact : (exact : MatchResult R).isExact
  isExact_mismatch : ∀ distance : R, (mismatch distance).isExact = false

instance : DecidesExactness Rat := ⟨isExact_exact, isExact_mismatch⟩

private theorem isExact_ite_mismatch {holds : Prop} [Decidable holds] (distance : Rat) :
    (if holds then exact else mismatch distance : MatchResult Rat).isExact ↔ holds := by
  split
  · next yes => simp [yes]
  · next no => simp [no]

private theorem inRange_ite_mismatch {holds : Prop} [Decidable holds] (distance : Rat) :
    (if holds then exact else mismatch distance : MatchResult Rat).InRange := by
  split
  · exact inRange_exact
  · exact inRange_mismatch distance

private theorem foldl_max_le_iff {first bound : Rat} :
    results.foldl (fun distance result => Scalar.max distance result.distance) first ≤ bound ↔
      first ≤ bound ∧ ∀ result ∈ results, result.distance ≤ bound := by
  induction results generalizing first with
  | nil => simp
  | cons result rest induction =>
      rw [List.foldl_cons, induction, Scalar.max_rat, max_le_iff, and_assoc, List.forall_mem_cons]

private theorem foldl_min_le_iff {first bound : Rat} :
    results.foldl (fun distance result => Scalar.min distance result.distance) first ≤ bound ↔
      first ≤ bound ∨ ∃ result ∈ results, result.distance ≤ bound := by
  induction results generalizing first with
  | nil => simp
  | cons result rest induction =>
      rw [List.foldl_cons, induction, Scalar.min_rat, min_le_iff, or_assoc,
        List.exists_mem_cons_iff]

private theorem inRange_all (results : List (MatchResult Rat)) : (all results).InRange := by
  cases results with
  | nil => exact inRange_exact
  | cons result rest => exact inRange_graded _

private theorem inRange_any (results : List (MatchResult Rat)) : (any results).InRange := by
  cases results with
  | nil => exact inRange_noMatch
  | cons result rest => exact inRange_graded _

private theorem isExact_all_iff (inRange : ∀ result ∈ results, result.InRange) :
    (all results).isExact ↔ ∀ result ∈ results, result.isExact := by
  cases results with
  | nil => simp [all]
  | cons result rest =>
      obtain ⟨first, others⟩ := List.forall_mem_cons.mp inRange
      rw [all, isExact_graded_iff, foldl_max_le_iff, List.forall_mem_cons, first.isExact_iff_le]
      exact and_congr_right fun _ =>
        forall₂_congr fun other member => ((others other member).isExact_iff_le).symm

private theorem isExact_any_iff (inRange : ∀ result ∈ results, result.InRange) :
    (any results).isExact ↔ ∃ result ∈ results, result.isExact := by
  cases results with
  | nil => simp [any]
  | cons result rest =>
      obtain ⟨first, others⟩ := List.forall_mem_cons.mp inRange
      rw [any, isExact_graded_iff, foldl_min_le_iff, List.exists_mem_cons_iff,
        first.isExact_iff_le]
      refine or_congr_right (exists_congr fun other => and_congr_right fun member => ?_)
      exact ((others other member).isExact_iff_le).symm

private theorem weightedMean_totals (entries : List (MatchResult Rat × Rat)) (sum weight : Rat) :
    entries.foldl (fun (sum, weight) entry => (sum + entry.1.distance * entry.2, weight + entry.2))
        (sum, weight) =
      (sum + (entries.map fun entry => entry.1.distance * entry.2).sum,
        weight + (entries.map Prod.snd).sum) := by
  induction entries generalizing sum weight with
  | nil => simp
  | cons entry rest induction =>
      rw [List.foldl_cons, induction, List.map_cons, List.map_cons, List.sum_cons, List.sum_cons,
        add_assoc, add_assoc]

private theorem weightedMean_eq (entries : List (MatchResult Rat × Rat)) :
    weightedMean entries =
      if (entries.map Prod.snd).sum ≤ 0 then exact
      else graded ((entries.map fun entry => entry.1.distance * entry.2).sum /
        (entries.map Prod.snd).sum) := by
  simp only [weightedMean, Scalar.zero_rat, weightedMean_totals, zero_add, Scalar.le_rat,
    decide_eq_true_eq]

theorem inRange_weightedMean (entries : List (MatchResult Rat × Rat)) :
    (weightedMean entries).InRange := by
  rw [weightedMean_eq]
  split
  · exact inRange_exact
  · exact inRange_graded _

section Weighted

variable {entries : List (MatchResult Rat × Rat)}

theorem weights_pos (positive : ∀ entry ∈ entries, 0 < entry.2) (inhabited : entries ≠ []) :
    0 < (entries.map Prod.snd).sum := by
  refine List.sum_pos _ ?_ (by simpa using inhabited)
  rintro weight listed
  obtain ⟨entry, member, rfl⟩ := List.mem_map.mp listed
  exact positive entry member

private theorem weighted_sum_nonneg (positive : ∀ entry ∈ entries, 0 < entry.2)
    (inRange : ∀ entry ∈ entries, entry.1.InRange) :
    0 ≤ (entries.map fun entry => entry.1.distance * entry.2).sum := by
  refine List.sum_nonneg (List.forall_mem_map.mpr fun entry member => ?_)
  exact mul_nonneg (inRange entry member).nonneg (positive entry member).le

private theorem weighted_sum_le (positive : ∀ entry ∈ entries, 0 < entry.2)
    (inRange : ∀ entry ∈ entries, entry.1.InRange) :
    (entries.map fun entry => entry.1.distance * entry.2).sum ≤ (entries.map Prod.snd).sum :=
  List.sum_le_sum fun entry member =>
    mul_le_of_le_one_left (positive entry member).le (inRange entry member).le_one

/-- Without any entries the mean is zero, which is also what a division by zero gives. -/
theorem distance_weightedMean (positive : ∀ entry ∈ entries, 0 < entry.2)
    (inRange : ∀ entry ∈ entries, entry.1.InRange) :
    (weightedMean entries).distance =
      (entries.map fun entry => entry.1.distance * entry.2).sum / (entries.map Prod.snd).sum := by
  rw [weightedMean_eq]
  by_cases empty : entries = []
  · subst empty
    simp [exact]
  · have total := weights_pos positive empty
    have nonneg := div_nonneg (weighted_sum_nonneg positive inRange) total.le
    have le_one := (div_le_one total).mpr (weighted_sum_le positive inRange)
    rw [if_neg (not_le.mpr total), distance_graded, min_eq_left le_one, max_eq_right nonneg]

private theorem weighted_sum_le_zero_iff (positive : ∀ entry ∈ entries, 0 < entry.2)
    (inRange : ∀ entry ∈ entries, entry.1.InRange) :
    (entries.map fun entry => entry.1.distance * entry.2).sum ≤ 0 ↔
      ∀ entry ∈ entries, entry.1.isExact := by
  induction entries with
  | nil => simp
  | cons entry rest induction =>
      obtain ⟨weight, weights⟩ := List.forall_mem_cons.mp positive
      obtain ⟨first, others⟩ := List.forall_mem_cons.mp inRange
      have rest_nonneg := weighted_sum_nonneg weights others
      have first_nonneg := mul_nonneg first.nonneg weight.le
      rw [List.forall_mem_cons, ← induction weights others, isExact_iff, List.map_cons,
        List.sum_cons]
      constructor
      · intro vanishes
        have product : entry.1.distance * entry.2 = 0 := by linarith
        exact ⟨(mul_eq_zero.mp product).resolve_right weight.ne', by linarith⟩
      · rintro ⟨same, vanishes⟩
        rw [same, zero_mul, zero_add]
        exact vanishes

theorem isExact_weightedMean_iff (positive : ∀ entry ∈ entries, 0 < entry.2)
    (inRange : ∀ entry ∈ entries, entry.1.InRange) :
    (weightedMean entries).isExact ↔ ∀ entry ∈ entries, entry.1.isExact := by
  rw [weightedMean_eq]
  by_cases empty : entries = []
  · subst empty
    simp
  · have total := weights_pos positive empty
    rw [if_neg (not_le.mpr total), isExact_graded_iff, div_le_iff₀ total, zero_mul,
      weighted_sum_le_zero_iff positive inRange]

end Weighted

theorem inRange_mean (results : List (MatchResult Rat)) : (mean results).InRange :=
  inRange_weightedMean _

theorem isExact_mean_iff (inRange : ∀ result ∈ results, result.InRange) :
    (mean results).isExact ↔ ∀ result ∈ results, result.isExact := by
  rw [mean, isExact_weightedMean_iff]
  · simp
  · simp
  · simpa using inRange

/-- The result is in range, and it is exact just if the predicate holds. -/
structure Decides (result : MatchResult Rat) (holds : Prop) : Prop extends result.InRange where
  isExact_iff : result.isExact ↔ holds

namespace Decides

variable {holds other : Prop}

theorem congr (decides : result.Decides holds) (same : holds ↔ other) : result.Decides other :=
  ⟨decides.toInRange, decides.isExact_iff.trans same⟩

protected theorem exact : (exact : MatchResult Rat).Decides True :=
  ⟨inRange_exact, by simp⟩

theorem noMatch : (noMatch : MatchResult Rat).Decides False :=
  ⟨inRange_noMatch, by simp⟩

theorem of (holds : Bool) : (MatchResult.of holds : MatchResult Rat).Decides (holds = true) :=
  ⟨inRange_of holds, by rw [isExact_of]⟩

theorem ite_mismatch [Decidable holds] (distance : Rat) :
    (if holds then MatchResult.exact else mismatch distance : MatchResult Rat).Decides holds :=
  ⟨inRange_ite_mismatch distance, isExact_ite_mismatch distance⟩

theorem self (inRange : result.InRange) : result.Decides (result.isExact = true) :=
  ⟨inRange, .rfl⟩

theorem not (decides : result.Decides holds) :
    (MatchResult.of !result.isExact : MatchResult Rat).Decides (¬ holds) :=
  (of _).congr (by rw [← decides.isExact_iff, Bool.not_eq_true', Bool.not_eq_true])

variable {α : Type} {items : List α} {resultOf : α → MatchResult Rat} {property : α → Prop}

theorem all (each : ∀ item ∈ items, (resultOf item).Decides (property item)) :
    (MatchResult.all (items.map resultOf)).Decides (∀ item ∈ items, property item) := by
  refine ⟨inRange_all _, ?_⟩
  rw [isExact_all_iff (List.forall_mem_map.mpr fun item member => (each item member).toInRange),
    List.forall_mem_map]
  exact forall₂_congr fun item member => (each item member).isExact_iff

theorem any (each : ∀ item ∈ items, (resultOf item).Decides (property item)) :
    (MatchResult.any (items.map resultOf)).Decides (∃ item ∈ items, property item) := by
  refine ⟨inRange_any _, ?_⟩
  rw [isExact_any_iff (List.forall_mem_map.mpr fun item member => (each item member).toInRange)]
  simp only [List.mem_map, exists_exists_and_eq_and]
  exact exists_congr fun item => and_congr_right fun member => (each item member).isExact_iff

theorem mean (each : ∀ item ∈ items, (resultOf item).Decides (property item)) :
    (MatchResult.mean (items.map resultOf)).Decides (∀ item ∈ items, property item) := by
  refine ⟨inRange_mean _, ?_⟩
  rw [isExact_mean_iff (List.forall_mem_map.mpr fun item member => (each item member).toInRange),
    List.forall_mem_map]
  exact forall₂_congr fun item member => (each item member).isExact_iff

end Decides

end MatchResult

end ServiceStub
