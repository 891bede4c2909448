import ServiceStub.Proofs.Pattern.Combination

/-!
Patterns where there is no value.  Each of them is then an exact match or none at all, and among
those that do not ask for absence only a negation is a match.
-/

namespace ServiceStub

namespace MatchResult

variable {R : Type} [Scalar R] [OrderedScalar R]

private theorem all_of (answers : List Bool) :
    all (answers.map of) = (of (answers.all id) : MatchResult R) := by
  have each : ∀ result ∈ answers.map (of : Bool → MatchResult R), result.Measured :=
    List.forall_mem_map.mpr fun answer _ => measured_of answer
  refine (measured_all each).eq_of_forall_le (measured_of _) fun bound => ?_
  rw [value_all_le_iff each, List.forall_mem_map, value_of_le_iff, List.all_eq_true]
  refine and_congr_right fun nonneg => ?_
  by_cases one : 1 ≤ bound
  · simp [value_of_le_iff, nonneg, one]
  · simp [value_of_le_iff, nonneg, one]

private theorem any_of (answers : List Bool) :
    any (answers.map of) = (of (answers.any id) : MatchResult R) := by
  have each : ∀ result ∈ answers.map (of : Bool → MatchResult R), result.Measured :=
    List.forall_mem_map.mpr fun answer _ => measured_of answer
  refine (measured_any each).eq_of_forall_le (measured_of _) fun bound => ?_
  rw [value_any_le_iff each, value_of_le_iff, List.any_eq_true]
  simp only [List.mem_map, exists_exists_and_eq_and, value_of_le_iff]
  by_cases one : 1 ≤ bound
  · simp [one, zero_le_one.trans one]
  · simp [one, and_comm]

end MatchResult

namespace Pattern

mutual

def acceptsAbsence : Pattern → Bool
  | .absent => true
  | .and patterns => (absenceAnswers patterns).all id
  | .or patterns => (absenceAnswers patterns).any id
  | .not pattern => !acceptsAbsence pattern
  | _ => false

def absenceAnswers : List Pattern → List Bool
  | [] => []
  | pattern :: patterns => acceptsAbsence pattern :: absenceAnswers patterns

end

private theorem absenceAnswers_eq_map (patterns : List Pattern) :
    absenceAnswers patterns = patterns.map acceptsAbsence := by
  induction patterns with
  | nil => rw [absenceAnswers, List.map_nil]
  | cons pattern rest induction => rw [absenceAnswers, induction, List.map_cons]

/-- A negation is asked of the value itself, and not only of what is selected from it. -/
inductive NegatesValue : Pattern → Prop
  | and {pattern : Pattern} {patterns : List Pattern} (member : pattern ∈ patterns)
      (negates : NegatesValue pattern) : NegatesValue (.and patterns)
  | or {pattern : Pattern} {patterns : List Pattern} (member : pattern ∈ patterns)
      (negates : NegatesValue pattern) : NegatesValue (.or patterns)
  | not (pattern : Pattern) : NegatesValue (.not pattern)

/-- Without an absence operator and without an empty conjunction, a pattern accepts absence only
through a negation. -/
theorem negatesValue_of_acceptsAbsence {pattern : Pattern} (noAbsent : ¬ OccursIn .absent pattern)
    (noEmpty : ¬ OccursIn (.and []) pattern) (accepts : pattern.acceptsAbsence) :
    pattern.NegatesValue := by
  induction pattern using nestedInduction with
  | equalTo _ _ | contains _ | doesNotContain _ | matchesRegex _ | doesNotMatch _
  | equalToJson _ | matchesJsonPath _ _ _ | matchesXPath _ _ _ | dateTime _ | binaryEqualTo _
  | matchesJsonSchema _ => simp [acceptsAbsence] at accepts
  | absent => exact absurd (.self .absent) noAbsent
  | and patterns induction =>
      rw [acceptsAbsence, absenceAnswers_eq_map, List.all_map, List.all_eq_true] at accepts
      cases patterns with
      | nil => exact absurd (.self (.and [])) noEmpty
      | cons first rest =>
          -- all members accept absence, and so does the first one
          have member : first ∈ first :: rest := List.mem_cons_self
          exact .and member (induction first member (fun occurs => noAbsent (.and member occurs))
            (fun occurs => noEmpty (.and member occurs)) (accepts first member))
  | or patterns induction =>
      rw [acceptsAbsence, absenceAnswers_eq_map, List.any_map, List.any_eq_true] at accepts
      obtain ⟨pattern, member, accepts⟩ := accepts
      exact .or member (induction pattern member (fun occurs => noAbsent (.or member occurs))
        (fun occurs => noEmpty (.or member occurs)) accepts)
  | not pattern _ => exact .not pattern

variable {R : Type} [Scalar R] [OrderedScalar R]

private theorem evaluate_none (now : Calendar.Instant) (pattern : Pattern) :
    evaluate now pattern none = (.of pattern.acceptsAbsence : MatchResult R) := by
  induction pattern using nestedInduction with
  | equalTo _ _ | contains _ | doesNotContain _ | matchesRegex _ | doesNotMatch _ | absent
  | equalToJson _ | matchesJsonPath _ _ _ | matchesXPath _ _ _ | dateTime _ | binaryEqualTo _
  | matchesJsonSchema _ => rfl
  | and patterns induction =>
      rw [evaluate, evaluateEach_eq_map, acceptsAbsence, absenceAnswers_eq_map,
        ← MatchResult.all_of, List.map_map, List.map_congr_left induction]
      rfl
  | or patterns induction =>
      rw [evaluate, evaluateEach_eq_map, acceptsAbsence, absenceAnswers_eq_map,
        ← MatchResult.any_of, List.map_map, List.map_congr_left induction]
      rfl
  | not pattern induction =>
      rw [evaluate, induction, acceptsAbsence, OrderedScalar.isExact_of]

private theorem evaluateBytes_none (now : Calendar.Instant) (pattern : Pattern) :
    evaluateBytes now pattern none = (.of pattern.acceptsAbsence : MatchResult R) :=
  (evaluateBytes_map_toBytes now pattern none).trans (evaluate_none now pattern)

/-- Where there is no value a pattern is an exact match or none at all.  It is no match if it has
no absence operator, no empty conjunction, and no negation outside of what it selects from the
value. -/
theorem absence_refused_unless_negated (R : Type) [Scalar R] [OrderedScalar R]
    (now : Calendar.Instant) (pattern : Pattern) :
    (evaluate now pattern none = (.of pattern.acceptsAbsence : MatchResult R) ∧
      evaluateBytes now pattern none = (.of pattern.acceptsAbsence : MatchResult R)) ∧
    (¬ OccursIn .absent pattern → ¬ OccursIn (.and []) pattern → ¬ pattern.NegatesValue →
      evaluate now pattern none = (.noMatch : MatchResult R) ∧
        evaluateBytes now pattern none = (.noMatch : MatchResult R)) := by
  refine ⟨⟨evaluate_none now pattern, evaluateBytes_none now pattern⟩, ?_⟩
  intro noAbsent noEmpty noNegation
  have refuses : pattern.acceptsAbsence = false := Bool.eq_false_iff.mpr fun accepts =>
    noNegation (negatesValue_of_acceptsAbsence noAbsent noEmpty accepts)
  rw [evaluate_none, evaluateBytes_none, refuses]
  exact ⟨rfl, rfl⟩

/-- A negation inside an XPath operator is asked of what the operator selects, so an absent value
is still no match. -/
theorem absence_refused_unless_negated_selection :
    let selector : XmlSelector := ⟨"'a'", [], .literal "a"⟩
    let pattern : Pattern :=
      .and [.doesNotContain "x", .matchesXPath selector (some (.not (.equalTo "y" false)))]
    ¬ OccursIn .absent pattern ∧ ¬ OccursIn (.and []) pattern ∧ ¬ pattern.NegatesValue ∧
      evaluate ⟨0, 0⟩ pattern none = (.noMatch : MatchResult Float) ∧
      evaluateBytes ⟨0, 0⟩ pattern none = (.noMatch : MatchResult Float) := by
  intro selector pattern
  have noAbsent : ¬ OccursIn .absent pattern := by
    rintro (occurs : OccursIn _ (.and _))
    cases occurs with
    | and member occurs =>
        rcases List.mem_pair.mp member with rfl | rfl
        · exact nomatch occurs
        · obtain _ | _ | _ | _ | _ | ⟨_ | _ | _ | ⟨⟨⟩⟩⟩ := occurs
  have noEmpty : ¬ OccursIn (.and []) pattern := by
    rintro (occurs : OccursIn _ (.and _))
    cases occurs with
    | and member occurs =>
        rcases List.mem_pair.mp member with rfl | rfl
        · exact nomatch occurs
        · obtain _ | _ | _ | _ | _ | ⟨_ | _ | _ | ⟨⟨⟩⟩⟩ := occurs
  have noNegation : ¬ pattern.NegatesValue := by
    rintro (negates : NegatesValue (.and _))
    cases negates with
    | and member negates =>
        rcases List.mem_pair.mp member with rfl | rfl
        · exact nomatch negates
        · exact nomatch negates
  exact ⟨noAbsent, noEmpty, noNegation,
    (absence_refused_unless_negated Float ⟨0, 0⟩ pattern).2 noAbsent noEmpty noNegation⟩

/-- A negation matches where there is no value, although it has neither an absence operator nor
an empty conjunction. -/
theorem negation_accepts_absence :
    ¬ OccursIn .absent (.not (.equalTo "x" false)) ∧
      ¬ OccursIn (.and []) (.not (.equalTo "x" false)) ∧
      evaluate ⟨0, 0⟩ (.not (.equalTo "x" false)) none ≠ (.noMatch : MatchResult Float) ∧
      evaluateBytes ⟨0, 0⟩ (.not (.equalTo "x" false)) none ≠ (.noMatch : MatchResult Float) := by
  refine ⟨?_, ?_, ?_, ?_⟩
  · rintro (_ | _ | _ | ⟨⟨⟩⟩)
  · rintro (_ | _ | _ | ⟨⟨⟩⟩)
  · rw [evaluate_none]
    exact MatchResult.exact_ne_noMatch
  · rw [evaluateBytes_none]
    exact MatchResult.exact_ne_noMatch

end Pattern

end ServiceStub
