import ServiceStub.Proofs.Pattern.Evaluation

/-!
Conjunction and disjunction as they show in results.  A conjunction is as far from a value as the
farthest of its members, a disjunction is as near as the nearest, and how the members are nested,
ordered or repeated makes no difference.
-/

namespace ServiceStub.Pattern

open OrderedScalar (value)

/-- The members of a conjunction, and any other pattern alone. -/
def conjuncts : Pattern → List Pattern
  | .and patterns => patterns
  | pattern => [pattern]

def disjuncts : Pattern → List Pattern
  | .or patterns => patterns
  | pattern => [pattern]

mutual

/-- The pattern with no conjunction directly inside a conjunction, and no disjunction directly
inside a disjunction. -/
def flatten : Pattern → Pattern
  | .and patterns => .and (flattenConjuncts patterns)
  | .or patterns => .or (flattenDisjuncts patterns)
  | .not pattern => .not (flatten pattern)
  | .matchesJsonPath selector value => .matchesJsonPath selector (flattenValue value)
  | .matchesXPath selector value => .matchesXPath selector (flattenValue value)
  | pattern => pattern

def flattenConjuncts : List Pattern → List Pattern
  | [] => []
  | pattern :: patterns => (flatten pattern).conjuncts ++ flattenConjuncts patterns

def flattenDisjuncts : List Pattern → List Pattern
  | [] => []
  | pattern :: patterns => (flatten pattern).disjuncts ++ flattenDisjuncts patterns

def flattenValue : Option Pattern → Option Pattern
  | none => none
  | some pattern => some (flatten pattern)

end

private theorem flattenConjuncts_eq_flatMap (patterns : List Pattern) :
    flattenConjuncts patterns = patterns.flatMap fun pattern => pattern.flatten.conjuncts := by
  induction patterns with
  | nil => rw [flattenConjuncts, List.flatMap_nil]
  | cons pattern rest induction => rw [flattenConjuncts, induction, List.flatMap_cons]

private theorem flattenDisjuncts_eq_flatMap (patterns : List Pattern) :
    flattenDisjuncts patterns = patterns.flatMap fun pattern => pattern.flatten.disjuncts := by
  induction patterns with
  | nil => rw [flattenDisjuncts, List.flatMap_nil]
  | cons pattern rest induction => rw [flattenDisjuncts, induction, List.flatMap_cons]

inductive OccursIn : Pattern → Pattern → Prop
  | self (pattern : Pattern) : OccursIn pattern pattern
  | and {part pattern : Pattern} {patterns : List Pattern} (member : pattern ∈ patterns)
      (occurs : OccursIn part pattern) : OccursIn part (.and patterns)
  | or {part pattern : Pattern} {patterns : List Pattern} (member : pattern ∈ patterns)
      (occurs : OccursIn part pattern) : OccursIn part (.or patterns)
  | not {part pattern : Pattern} (occurs : OccursIn part pattern) : OccursIn part (.not pattern)
  | matchesJsonPath {part pattern : Pattern} {selector : JsonSelector}
      (occurs : OccursIn part pattern) :
      OccursIn part (.matchesJsonPath selector (some pattern))
  | matchesXPath {part pattern : Pattern} {selector : XmlSelector}
      (occurs : OccursIn part pattern) :
      OccursIn part (.matchesXPath selector (some pattern))

structure Flat (pattern : Pattern) : Prop where
  and {outer inner : List Pattern} (occurs : OccursIn (.and outer) pattern) :
    Pattern.and inner ∉ outer
  or {outer inner : List Pattern} (occurs : OccursIn (.or outer) pattern) :
    Pattern.or inner ∉ outer

section Flat

variable {pattern part : Pattern} {patterns inner : List Pattern}

private theorem occursIn_of_mem_conjuncts {smaller : Pattern} (member : pattern ∈ part.conjuncts)
    (occurs : OccursIn smaller pattern) : OccursIn smaller part := by
  revert member
  fun_cases conjuncts part with
  | case1 => exact fun member => .and member occurs
  | case2 => exact fun member => List.mem_singleton.mp member ▸ occurs

private theorem occursIn_of_mem_disjuncts {smaller : Pattern} (member : pattern ∈ part.disjuncts)
    (occurs : OccursIn smaller pattern) : OccursIn smaller part := by
  revert member
  fun_cases disjuncts part with
  | case1 => exact fun member => .or member occurs
  | case2 => exact fun member => List.mem_singleton.mp member ▸ occurs

private theorem Flat.and_notMem_conjuncts (flat : pattern.Flat) :
    .and inner ∉ pattern.conjuncts := by
  fun_cases conjuncts pattern with
  | case1 => exact flat.and (.self _)
  | case2 _ other => exact fun same => other inner (List.mem_singleton.mp same).symm

private theorem Flat.or_notMem_disjuncts (flat : pattern.Flat) : .or inner ∉ pattern.disjuncts := by
  fun_cases disjuncts pattern with
  | case1 => exact flat.or (.self _)
  | case2 _ other => exact fun same => other inner (List.mem_singleton.mp same).symm

private theorem flat_and (each : ∀ pattern ∈ patterns, pattern.Flat)
    (other : ∀ inner, .and inner ∉ patterns) : (Pattern.and patterns).Flat where
  and occurs := by
    cases occurs with
    | self => exact other _
    | and member occurs => exact (each _ member).and occurs
  or occurs := by
    cases occurs with
    | and member occurs => exact (each _ member).or occurs

private theorem flat_or (each : ∀ pattern ∈ patterns, pattern.Flat)
    (other : ∀ inner, .or inner ∉ patterns) : (Pattern.or patterns).Flat where
  and occurs := by
    cases occurs with
    | or member occurs => exact (each _ member).and occurs
  or occurs := by
    cases occurs with
    | self => exact other _
    | or member occurs => exact (each _ member).or occurs

private theorem Flat.of_occursIn (flat : pattern.Flat)
    (occurs : ∀ smaller, OccursIn smaller part → OccursIn smaller pattern) : part.Flat where
  and occursIn := flat.and (occurs _ occursIn)
  or occursIn := flat.or (occurs _ occursIn)

private theorem flat_flatten (pattern : Pattern) : pattern.flatten.Flat := by
  induction pattern using nestedInduction with
  | equalTo _ _ | contains _ | doesNotContain _ | matchesRegex _ | doesNotMatch _ | absent
  | equalToJson _ | dateTime _ | binaryEqualTo _ | matchesJsonSchema _ => exact ⟨nofun, nofun⟩
  | matchesJsonPath selector inner induction =>
      cases inner with
      | none => exact ⟨nofun, nofun⟩
      | some pattern =>
          have flat := induction pattern rfl
          exact ⟨fun | .matchesJsonPath occurs => flat.and occurs,
            fun | .matchesJsonPath occurs => flat.or occurs⟩
  | matchesXPath selector inner induction =>
      cases inner with
      | none => exact ⟨nofun, nofun⟩
      | some pattern =>
          have flat := induction pattern rfl
          exact ⟨fun | .matchesXPath occurs => flat.and occurs,
            fun | .matchesXPath occurs => flat.or occurs⟩
  | and patterns induction =>
      rw [flatten, flattenConjuncts_eq_flatMap]
      refine flat_and (fun part member => ?_) fun inner member => ?_
      · obtain ⟨pattern, listed, member⟩ := List.mem_flatMap.mp member
        exact (induction pattern listed).of_occursIn fun _ => occursIn_of_mem_conjuncts member
      · obtain ⟨pattern, listed, member⟩ := List.mem_flatMap.mp member
        exact (induction pattern listed).and_notMem_conjuncts member
  | or patterns induction =>
      rw [flatten, flattenDisjuncts_eq_flatMap]
      refine flat_or (fun part member => ?_) fun inner member => ?_
      · obtain ⟨pattern, listed, member⟩ := List.mem_flatMap.mp member
        exact (induction pattern listed).of_occursIn fun _ => occursIn_of_mem_disjuncts member
      · obtain ⟨pattern, listed, member⟩ := List.mem_flatMap.mp member
        exact (induction pattern listed).or_notMem_disjuncts member
  | not pattern flat =>
      exact ⟨fun | .not occurs => flat.and occurs, fun | .not occurs => flat.or occurs⟩

end Flat

variable {R : Type} [Scalar R] [OrderedScalar R]

/-- A way to evaluate patterns on some value: conjunctions and disjunctions of patterns are those
of their results. -/
structure Evaluation (result : Pattern → MatchResult R) : Prop where
  measured (pattern : Pattern) : (result pattern).Measured
  and (patterns : List Pattern) : result (.and patterns) = .all (patterns.map result)
  or (patterns : List Pattern) : result (.or patterns) = .any (patterns.map result)

private theorem evaluation_evaluate (now : Calendar.Instant) (value : Option String) :
    Evaluation fun pattern => (evaluate now pattern value : MatchResult R) where
  measured pattern := measured_evaluate now pattern value
  and patterns := by rw [evaluate, evaluateEach_eq_map]
  or patterns := by rw [evaluate, evaluateEach_eq_map]

private theorem evaluation_evaluateBytes (now : Calendar.Instant) (value : Option Bytes) :
    Evaluation fun pattern => (evaluateBytes now pattern value : MatchResult R) where
  measured pattern := measured_evaluateBytes now pattern value
  and patterns := by rw [evaluateBytes, evaluateBytesEach_eq_map]
  or patterns := by rw [evaluateBytes, evaluateBytesEach_eq_map]

namespace Evaluation

variable {result : Pattern → MatchResult R} {bound : Rat}

private theorem and_le_iff (evaluation : Evaluation result) {patterns : List Pattern} :
    value (result (.and patterns)).distance ≤ bound ↔
      0 ≤ bound ∧ ∀ pattern ∈ patterns, value (result pattern).distance ≤ bound := by
  rw [evaluation.and, MatchResult.value_all_le_iff, List.forall_mem_map]
  exact List.forall_mem_map.mpr fun pattern _ => evaluation.measured pattern

private theorem or_le_iff (evaluation : Evaluation result) {patterns : List Pattern} :
    value (result (.or patterns)).distance ≤ bound ↔
      1 ≤ bound ∨ ∃ pattern ∈ patterns, value (result pattern).distance ≤ bound := by
  rw [evaluation.or, MatchResult.value_any_le_iff]
  · simp only [List.mem_map, exists_exists_and_eq_and]
  · exact List.forall_mem_map.mpr fun pattern _ => evaluation.measured pattern

private theorem nonneg_of_le (evaluation : Evaluation result) {pattern : Pattern}
    (below : value (result pattern).distance ≤ bound) : 0 ≤ bound :=
  (evaluation.measured pattern).nonneg.trans below

private theorem le_of_one_le (evaluation : Evaluation result) (pattern : Pattern)
    (one : 1 ≤ bound) :
    value (result pattern).distance ≤ bound :=
  (evaluation.measured pattern).le_one.trans one

private theorem both_le_iff (evaluation : Evaluation result) {left right : Pattern} :
    value (result (left.both right)).distance ≤ bound ↔
      value (result left).distance ≤ bound ∧ value (result right).distance ≤ bound := by
  fun_cases both left right with
  | case1 => rw [evaluation.and_le_iff, List.forall_mem_append, List.forall_mem_singleton,
      ← and_assoc, evaluation.and_le_iff]
  | case2 => 
      rw [evaluation.and_le_iff, List.forall_mem_cons, List.forall_mem_singleton]
      exact and_iff_right_of_imp fun below => evaluation.nonneg_of_le below.1

private theorem either_le_iff (evaluation : Evaluation result) {left right : Pattern} :
    value (result (left.either right)).distance ≤ bound ↔
      value (result left).distance ≤ bound ∨ value (result right).distance ≤ bound := by
  fun_cases either left right with
  | case1 =>
      simp only [evaluation.or_le_iff, List.mem_append, List.mem_singleton, or_and_right,
        exists_or, exists_eq_left, or_assoc]
  | case2 =>
      simp only [evaluation.or_le_iff, List.exists_mem_cons_iff, List.mem_singleton,
        exists_eq_left]
      exact or_iff_right_of_imp fun one => .inl (evaluation.le_of_one_le _ one)

theorem result_eq (evaluation : Evaluation result) {left right : Pattern}
    (same : ∀ bound, value (result left).distance ≤ bound ↔ value (result right).distance ≤ bound) :
    result left = result right :=
  (evaluation.measured left).eq_of_forall_le (evaluation.measured right) same

private theorem distance_both (evaluation : Evaluation result) (left right : Pattern) :
    (result (left.both right)).distance =
      Scalar.max (result left).distance (result right).distance := by
  have measuredLeft := evaluation.measured left
  have measuredRight := evaluation.measured right
  have same := (evaluation.measured (left.both right)).eq_of_forall_le
    (measuredLeft.max measuredRight) fun bound => by
      rw [evaluation.both_le_iff, Scalar.value_max measuredLeft.finite measuredRight.finite,
        max_le_iff]
  exact congrArg MatchResult.distance same

private theorem distance_either (evaluation : Evaluation result) (left right : Pattern) :
    (result (left.either right)).distance =
      Scalar.min (result left).distance (result right).distance := by
  have measuredLeft := evaluation.measured left
  have measuredRight := evaluation.measured right
  have same := (evaluation.measured (left.either right)).eq_of_forall_le
    (measuredLeft.min measuredRight) fun bound => by
      rw [evaluation.either_le_iff, Scalar.value_min measuredLeft.finite measuredRight.finite,
        min_le_iff]
  exact congrArg MatchResult.distance same

private theorem forall_conjuncts_le_iff (evaluation : Evaluation result) {pattern : Pattern}
    (nonneg : 0 ≤ bound) :
    (∀ conjunct ∈ pattern.conjuncts, value (result conjunct).distance ≤ bound) ↔
      value (result pattern).distance ≤ bound := by
  fun_cases conjuncts pattern with
  | case1 => rw [evaluation.and_le_iff, and_iff_right nonneg]
  | case2 => rw [List.forall_mem_singleton]

private theorem exists_disjuncts_le_iff (evaluation : Evaluation result) {pattern : Pattern}
    (less : ¬ 1 ≤ bound) :
    (∃ disjunct ∈ pattern.disjuncts, value (result disjunct).distance ≤ bound) ↔
      value (result pattern).distance ≤ bound := by
  fun_cases disjuncts pattern with
  | case1 => rw [evaluation.or_le_iff, or_iff_right less]
  | case2 => simp only [List.mem_singleton, exists_eq_left]

private theorem flatten_and (evaluation : Evaluation result) {patterns : List Pattern}
    (each : ∀ pattern ∈ patterns, result pattern.flatten = result pattern) :
    result (flatten (.and patterns)) = result (.and patterns) := by
  refine evaluation.result_eq fun bound => ?_
  rw [flatten, flattenConjuncts_eq_flatMap, evaluation.and_le_iff, evaluation.and_le_iff,
    List.forall_mem_flatMap]
  refine and_congr_right fun nonneg => forall₂_congr fun pattern member => ?_
  rw [evaluation.forall_conjuncts_le_iff nonneg, each pattern member]

private theorem flatten_or (evaluation : Evaluation result) {patterns : List Pattern}
    (each : ∀ pattern ∈ patterns, result pattern.flatten = result pattern) :
    result (flatten (.or patterns)) = result (.or patterns) := by
  refine evaluation.result_eq fun bound => ?_
  rw [flatten, flattenDisjuncts_eq_flatMap, evaluation.or_le_iff, evaluation.or_le_iff]
  -- A bound of one or more says nothing about the members, and they may be none.
  by_cases one : 1 ≤ bound
  · exact iff_of_true (.inl one) (.inl one)
  · refine or_congr_right ?_
    calc (∃ part ∈ patterns.flatMap fun pattern => pattern.flatten.disjuncts,
          value (result part).distance ≤ bound)
      _ ↔ ∃ pattern ∈ patterns, ∃ part ∈ pattern.flatten.disjuncts,
            value (result part).distance ≤ bound := by
          simp only [List.mem_flatMap]
          constructor
          · rintro ⟨part, ⟨pattern, listed, member⟩, below⟩
            exact ⟨pattern, listed, part, member, below⟩
          · rintro ⟨pattern, listed, part, member, below⟩
            exact ⟨part, ⟨pattern, listed, member⟩, below⟩
      _ ↔ ∃ pattern ∈ patterns, value (result pattern).distance ≤ bound := by
          refine exists_congr fun pattern => and_congr_right fun member => ?_
          rw [evaluation.exists_disjuncts_le_iff one, each pattern member]

end Evaluation

section Flatten

variable {now : Calendar.Instant}

omit [OrderedScalar R] in
private theorem evaluateSelected_flatten {inner : Option Pattern}
    (each : ∀ pattern ∈ inner, ∀ text,
      (evaluate now pattern.flatten text : MatchResult R) = evaluate now pattern text)
    (candidates : List String) :
    (evaluateSelected now (flattenValue inner) candidates : MatchResult R) =
      evaluateSelected now inner candidates := by
  cases inner with
  | none => rw [flattenValue]
  | some pattern => simp only [flattenValue, evaluateSelected, each pattern rfl]

private theorem evaluate_flatten (now : Calendar.Instant) (pattern : Pattern)
    (value : Option String) :
    (evaluate now pattern.flatten value : MatchResult R) = evaluate now pattern value := by
  induction pattern using nestedInduction generalizing value with
  | equalTo _ _ | contains _ | doesNotContain _ | matchesRegex _ | doesNotMatch _ | absent
  | equalToJson _ | dateTime _ | binaryEqualTo _ | matchesJsonSchema _ => rfl
  | matchesJsonPath selector inner induction =>
      rw [flatten]
      cases value with
      | none => rfl
      | some text =>
          rw [evaluate, evaluate]
          simp only [evaluateSelected_flatten induction]
  | matchesXPath selector inner induction =>
      rw [flatten]
      cases value with
      | none => rfl
      | some text =>
          rw [evaluate_matchesXPath, evaluate_matchesXPath]
          cases selector.select text with
          | none => rfl
          | some selection =>
              cases selection with
              | boolean holds =>
                  cases inner with
                  | none => rfl
                  | some pattern => exact induction pattern rfl _
              | texts candidates =>
                  cases inner with
                  | none => rfl
                  | some pattern => exact evaluateSelected_flatten induction candidates
  | and patterns induction =>
      exact (evaluation_evaluate now value).flatten_and fun pattern member =>
        induction pattern member value
  | or patterns induction =>
      exact (evaluation_evaluate now value).flatten_or fun pattern member =>
        induction pattern member value
  | not pattern induction => rw [flatten, evaluate, evaluate, induction]

private theorem evaluateBytes_flatten (now : Calendar.Instant) (pattern : Pattern)
    (value : Option Bytes) :
    (evaluateBytes now pattern.flatten value : MatchResult R) =
      evaluateBytes now pattern value := by
  induction pattern using nestedInduction with
  | equalTo _ _ | contains _ | doesNotContain _ | matchesRegex _ | doesNotMatch _ | absent
  | equalToJson _ | dateTime _ | binaryEqualTo _ | matchesJsonSchema _ => rfl
  | matchesJsonPath selector inner _ =>
      exact evaluate_flatten now (.matchesJsonPath selector inner) _
  | matchesXPath selector inner _ => exact evaluate_flatten now (.matchesXPath selector inner) _
  | and patterns induction => exact (evaluation_evaluateBytes now value).flatten_and induction
  | or patterns induction => exact (evaluation_evaluateBytes now value).flatten_or induction
  | not pattern induction => rw [flatten, evaluateBytes, evaluateBytes, induction]

end Flatten

/-- What the results on one value say about conjunction and disjunction. -/
structure Combines (result : Pattern → MatchResult R) : Prop where
  distance_both (left right : Pattern) :
    (result (left.both right)).distance =
      Scalar.max (result left).distance (result right).distance
  distance_either (left right : Pattern) :
    (result (left.either right)).distance =
      Scalar.min (result left).distance (result right).distance
  both_comm (left right : Pattern) : result (left.both right) = result (right.both left)
  either_comm (left right : Pattern) : result (left.either right) = result (right.either left)
  both_assoc (first second third : Pattern) :
    result ((first.both second).both third) = result (first.both (second.both third))
  either_assoc (first second third : Pattern) :
    result ((first.either second).either third) = result (first.either (second.either third))
  both_self (pattern : Pattern) : result (pattern.both pattern) = result pattern
  either_self (pattern : Pattern) : result (pattern.either pattern) = result pattern
  splice_and (before inner after : List Pattern) :
    result (.and (before ++ .and inner :: after)) = result (.and (before ++ inner ++ after))
  splice_or (before inner after : List Pattern) :
    result (.or (before ++ .or inner :: after)) = result (.or (before ++ inner ++ after))
  flatten (pattern : Pattern) : result pattern.flatten = result pattern

theorem Evaluation.combines {result : Pattern → MatchResult R} (evaluation : Evaluation result)
    (flatten : ∀ pattern : Pattern, result pattern.flatten = result pattern) :
    Combines result where
  distance_both := evaluation.distance_both
  distance_either := evaluation.distance_either
  both_comm left right := evaluation.result_eq fun bound => by
    simp only [evaluation.both_le_iff, and_comm]
  either_comm left right := evaluation.result_eq fun bound => by
    simp only [evaluation.either_le_iff, or_comm]
  both_assoc first second third := evaluation.result_eq fun bound => by
    simp only [evaluation.both_le_iff, and_assoc]
  either_assoc first second third := evaluation.result_eq fun bound => by
    simp only [evaluation.either_le_iff, or_assoc]
  both_self pattern := evaluation.result_eq fun bound => by
    rw [evaluation.both_le_iff, and_self]
  either_self pattern := evaluation.result_eq fun bound => by
    rw [evaluation.either_le_iff, or_self]
  splice_and before inner after := evaluation.result_eq fun bound => by
    simp only [evaluation.and_le_iff, List.forall_mem_append, List.forall_mem_cons]
    by_cases nonneg : 0 ≤ bound
    · simp only [nonneg, true_and, and_assoc]
    · simp only [nonneg, false_and]
  splice_or before inner after := evaluation.result_eq fun bound => by
    simp only [evaluation.or_le_iff, List.mem_append, List.mem_cons, or_and_right, exists_or,
      exists_eq_left]
    by_cases one : 1 ≤ bound
    · simp only [one, true_or]
    · simp only [one, false_or, or_assoc]
  flatten := flatten

/-- On every value, absent or not, as a text or as bytes, a conjunction of two patterns is at the
larger of their distances and a disjunction at the smaller.  So neither the order, the grouping
nor the repetition of patterns matters, and nested ones may be flattened. -/
theorem conjunction_is_farthest (R : Type) [Scalar R] [OrderedScalar R]
    (now : Calendar.Instant) :
    (∀ value : Option String,
      Combines fun pattern => (evaluate now pattern value : MatchResult R)) ∧
    (∀ value : Option Bytes,
      Combines fun pattern => (evaluateBytes now pattern value : MatchResult R)) ∧
    ∀ pattern : Pattern, pattern.flatten.Flat :=
  ⟨fun value => (evaluation_evaluate now value).combines fun pattern =>
      evaluate_flatten now pattern value,
    fun value => (evaluation_evaluateBytes now value).combines fun pattern =>
      evaluateBytes_flatten now pattern value,
    flat_flatten⟩

end ServiceStub.Pattern
