import ServiceStub.Pattern.Basic
import ServiceStub.Proofs.MatchResult
import ServiceStub.Proofs.Text.Chars

/-!
What it means that a value satisfies a pattern, without any distances.  A pattern evaluates to an
exact match on a value just if the value satisfies it.
-/

namespace ServiceStub

namespace Pattern

/-- One case for each kind of pattern; what holds for the patterns inside may be used. -/
@[elab_as_elim]
theorem nestedInduction {motive : Pattern → Prop}
    (equalTo : ∀ expected caseInsensitive, motive (.equalTo expected caseInsensitive))
    (contains : ∀ expected, motive (.contains expected))
    (doesNotContain : ∀ expected, motive (.doesNotContain expected))
    (matchesRegex : ∀ expression, motive (.matchesRegex expression))
    (doesNotMatch : ∀ expression, motive (.doesNotMatch expression))
    (absent : motive .absent)
    (equalToJson : ∀ equality, motive (.equalToJson equality))
    (matchesJsonPath : ∀ selector value, (∀ pattern ∈ value, motive pattern) →
      motive (.matchesJsonPath selector value))
    (matchesXPath : ∀ selector value, (∀ pattern ∈ value, motive pattern) →
      motive (.matchesXPath selector value))
    (dateTime : ∀ comparison, motive (.dateTime comparison))
    (binaryEqualTo : ∀ expected, motive (.binaryEqualTo expected))
    (matchesJsonSchema : ∀ schema, motive (.matchesJsonSchema schema))
    (and : ∀ patterns, (∀ pattern ∈ patterns, motive pattern) → motive (.and patterns))
    (or : ∀ patterns, (∀ pattern ∈ patterns, motive pattern) → motive (.or patterns))
    (not : ∀ pattern, motive pattern → motive (.not pattern)) (pattern : Pattern) :
    motive pattern :=
  @Pattern.rec motive (fun value => ∀ pattern ∈ value, motive pattern)
    (fun patterns => ∀ pattern ∈ patterns, motive pattern)
    equalTo contains doesNotContain matchesRegex doesNotMatch absent equalToJson matchesJsonPath
    matchesXPath dateTime binaryEqualTo matchesJsonSchema and or not
    (by simp) (by simp) (by simp)
    (fun _ _ first others => List.forall_mem_cons.mpr ⟨first, others⟩) pattern

mutual

/-- A text, or no text at all, satisfies a pattern. -/
def Satisfies (now : Calendar.Instant) (pattern : Pattern) (value : Option String) : Prop :=
  match pattern, value with
  | .absent, value => value = none
  | .and patterns, value => SatisfiesAll now patterns value
  | .or patterns, value => SatisfiesAny now patterns value
  | .not pattern, value => ¬ Satisfies now pattern value
  | _, none => False
  | .equalTo expected caseInsensitive, some text =>
      Text.foldCase (!caseInsensitive) expected = Text.foldCase (!caseInsensitive) text
  | .contains expected, some text => expected.toList <:+: text.toList
  | .doesNotContain expected, some text => ¬ expected.toList <:+: text.toList
  | .matchesRegex expression, some text => expression.isMatch text
  | .doesNotMatch expression, some text => ¬ expression.isMatch text
  | .equalToJson equality, some text => (equality.evaluate text : MatchResult Rat).isExact
  | .matchesJsonPath selector value, some text =>
      match Json.parse text with
      | none => False
      | some document => SatisfiesSelected now value (selector.candidates document)
  | .matchesXPath selector value, some text =>
      match selector.select text, value with
      | none, _ => False
      | some (.boolean holds), none => holds = true
      | some (.boolean holds), some value => Satisfies now value (some (toString holds))
      | some (.texts candidates), value => SatisfiesSelected now value candidates
  | .dateTime comparison, some text => (comparison.evaluate now text : MatchResult Rat).isExact
  | .binaryEqualTo expected, some text => Text.toBytes text = expected
  | .matchesJsonSchema schema, some text =>
      ∃ document, Json.parse text = some document ∧ schema.violations document = 0

def SatisfiesAll (now : Calendar.Instant) (patterns : List Pattern) (value : Option String) :
    Prop :=
  match patterns with
  | [] => True
  | pattern :: patterns => Satisfies now pattern value ∧ SatisfiesAll now patterns value

def SatisfiesAny (now : Calendar.Instant) (patterns : List Pattern) (value : Option String) :
    Prop :=
  match patterns with
  | [] => False
  | pattern :: patterns => Satisfies now pattern value ∨ SatisfiesAny now patterns value

/-- Without a pattern something must be selected; a pattern must be satisfied by one of the
selected texts, or by an absent value if there are none. -/
def SatisfiesSelected (now : Calendar.Instant) (pattern : Option Pattern)
    (candidates : List String) : Prop :=
  match pattern with
  | none => candidates ≠ []
  | some pattern =>
      (candidates = [] ∧ Satisfies now pattern none) ∨
        ∃ text ∈ candidates, Satisfies now pattern (some text)

end

mutual

/-- Bytes, or none at all, satisfy a pattern.  Only equality with bytes looks at them as they are;
all else is asked of the text they hold. -/
def SatisfiesBytes (now : Calendar.Instant) (pattern : Pattern) (value : Option Bytes) : Prop :=
  match pattern with
  | .binaryEqualTo expected => value = some expected
  | .and patterns => SatisfiesBytesAll now patterns value
  | .or patterns => SatisfiesBytesAny now patterns value
  | .not pattern => ¬ SatisfiesBytes now pattern value
  | pattern => Satisfies now pattern (value.map Text.ofBytesLossy)

def SatisfiesBytesAll (now : Calendar.Instant) (patterns : List Pattern) (value : Option Bytes) :
    Prop :=
  match patterns with
  | [] => True
  | pattern :: patterns =>
      SatisfiesBytes now pattern value ∧ SatisfiesBytesAll now patterns value

def SatisfiesBytesAny (now : Calendar.Instant) (patterns : List Pattern) (value : Option Bytes) :
    Prop :=
  match patterns with
  | [] => False
  | pattern :: patterns =>
      SatisfiesBytes now pattern value ∨ SatisfiesBytesAny now patterns value

end

variable {now : Calendar.Instant}

theorem satisfiesAll_iff {patterns : List Pattern} {value : Option String} :
    SatisfiesAll now patterns value ↔ ∀ pattern ∈ patterns, Satisfies now pattern value := by
  induction patterns with
  | nil => simp [SatisfiesAll]
  | cons pattern rest induction => rw [SatisfiesAll, induction, List.forall_mem_cons]

theorem satisfiesAny_iff {patterns : List Pattern} {value : Option String} :
    SatisfiesAny now patterns value ↔ ∃ pattern ∈ patterns, Satisfies now pattern value := by
  induction patterns with
  | nil => simp [SatisfiesAny]
  | cons pattern rest induction => rw [SatisfiesAny, induction, List.exists_mem_cons_iff]

theorem evaluateEach_eq_map {R : Type} [Scalar R] (now : Calendar.Instant)
    (patterns : List Pattern) (value : Option String) :
    (evaluateEach now patterns value : List (MatchResult R)) =
      patterns.map fun pattern => evaluate now pattern value := by
  induction patterns with
  | nil => simp [evaluateEach]
  | cons pattern rest induction => simp [evaluateEach, induction]

end Pattern

namespace MatchResult.Decides

theorem jsonEquality (equality : JsonEquality) (text : String) :
    (equality.evaluate text : MatchResult Rat).Decides
      (equality.evaluate text : MatchResult Rat).isExact := by
  refine .self ?_
  rw [JsonEquality.evaluate]
  split
  · exact inRange_noMatch
  · simp only [JsonEquality.evaluateDocument]
    split
    · exact inRange_exact
    · split
      · split
        · exact inRange_mismatch _
        · exact inRange_exact
      · exact inRange_mismatch _

theorem dateTime (comparison : DateTimePattern) (now : Calendar.Instant) (text : String) :
    (comparison.evaluate now text : MatchResult Rat).Decides
      (comparison.evaluate now text : MatchResult Rat).isExact := by
  refine .self ?_
  rw [DateTimePattern.evaluate]
  split
  · exact inRange_of _
  · exact inRange_noMatch

theorem jsonSchema (schema : JsonSchema) (text : String) :
    (schema.evaluate text : MatchResult Rat).Decides
      (∃ document, Json.parse text = some document ∧ schema.violations document = 0) := by
  rw [JsonSchema.evaluate]
  cases Json.parse text with
  | none => exact Decides.noMatch.congr (by simp)
  | some document =>
      simp only [Option.some.injEq, exists_eq_left']
      cases schema.violations document with
      | zero => exact Decides.exact.congr (by simp)
      | succ count => exact ⟨inRange_mismatch _, by simp⟩

theorem evaluateBinary (expected actual : Bytes) :
    (Pattern.evaluateBinary expected actual : MatchResult Rat).Decides (actual = expected) := by
  rw [Pattern.evaluateBinary]
  exact (Decides.ite_mismatch _).congr beq_iff_eq

end MatchResult.Decides

namespace Pattern

open MatchResult (Decides)

variable {now : Calendar.Instant}

private theorem decides_evaluateSelected {value : Option Pattern}
    (inner : ∀ pattern ∈ value, ∀ text,
      (evaluate now pattern text : MatchResult Rat).Decides (Satisfies now pattern text))
    (candidates : List String) :
    (evaluateSelected now value candidates : MatchResult Rat).Decides
      (SatisfiesSelected now value candidates) := by
  cases value with
  | none =>
      rw [evaluateSelected, SatisfiesSelected]
      exact (Decides.of _).congr (by simp)
  | some pattern =>
      rw [evaluateSelected, SatisfiesSelected]
      cases candidates with
      | nil => exact (inner pattern rfl none).congr (by simp)
      | cons first rest =>
          have one := Decides.any fun text (_ : text ∈ first :: rest) =>
            inner pattern rfl (some text)
          exact one.congr (by simp)

theorem evaluate_matchesXPath {R : Type} [Scalar R] (now : Calendar.Instant)
    (selector : XmlSelector) (value : Option Pattern) (text : String) :
    (evaluate now (.matchesXPath selector value) (some text) : MatchResult R) =
      match selector.select text, value with
      | none, _ => .noMatch
      | some (.boolean holds), none => .of holds
      | some (.boolean holds), some value => evaluate now value (some (toString holds))
      | some (.texts candidates), value => evaluateSelected now value candidates :=
  evaluate.eq_def ..

theorem satisfies_matchesXPath (now : Calendar.Instant) (selector : XmlSelector)
    (value : Option Pattern) (text : String) :
    Satisfies now (.matchesXPath selector value) (some text) =
      match selector.select text, value with
      | none, _ => False
      | some (.boolean holds), none => holds = true
      | some (.boolean holds), some value => Satisfies now value (some (toString holds))
      | some (.texts candidates), value => SatisfiesSelected now value candidates :=
  Satisfies.eq_def ..

/-- Evaluation decides satisfaction, on a text as well as where there is none. -/
theorem decides_evaluate (now : Calendar.Instant) (pattern : Pattern) (value : Option String) :
    (evaluate now pattern value : MatchResult Rat).Decides (Satisfies now pattern value) := by
  induction pattern using nestedInduction generalizing value with
  | equalTo expected caseInsensitive =>
      cases value with
      | none => exact .noMatch
      | some text =>
          rw [evaluate, Satisfies]
          exact (Decides.ite_mismatch _).congr beq_iff_eq
  | contains expected =>
      cases value with
      | none => exact .noMatch
      | some text =>
          rw [evaluate, Satisfies]
          exact (Decides.ite_mismatch _).congr Text.contains_iff
  | doesNotContain expected =>
      cases value with
      | none => exact .noMatch
      | some text =>
          rw [evaluate, Satisfies, ← Text.contains_iff]
          exact (Decides.of _).congr (by rw [Bool.not_eq_true', Bool.not_eq_true]; rfl)
  | matchesRegex expression =>
      cases value with
      | none => exact .noMatch
      | some text =>
          rw [evaluate, Satisfies]
          exact .ite_mismatch _
  | doesNotMatch expression =>
      cases value with
      | none => exact .noMatch
      | some text =>
          rw [evaluate, Satisfies]
          exact (Decides.of _).congr (by rw [Bool.not_eq_true', Bool.not_eq_true])
  | absent =>
      cases value with
      | none => exact (Decides.of true).congr (by simp [Satisfies])
      | some text => exact (Decides.of false).congr (by simp [Satisfies])
  | equalToJson equality =>
      cases value with
      | none => exact .noMatch
      | some text =>
          rw [evaluate, Satisfies]
          exact .jsonEquality equality text
  | matchesJsonPath selector inner induction =>
      cases value with
      | none => exact .noMatch
      | some text =>
          rw [evaluate, Satisfies]
          cases Json.parse text with
          | none => exact .noMatch
          | some document => exact decides_evaluateSelected induction _
  | matchesXPath selector inner induction =>
      cases value with
      | none => exact .noMatch
      | some text =>
          rw [evaluate_matchesXPath, satisfies_matchesXPath]
          cases selector.select text with
          | none => exact .noMatch
          | some selection =>
              cases selection with
              | texts candidates =>
                  cases inner with
                  | none => exact decides_evaluateSelected induction candidates
                  | some pattern => exact decides_evaluateSelected induction candidates
              | boolean holds =>
                  cases inner with
                  | none => exact .of holds
                  | some pattern => exact induction pattern rfl _
  | dateTime comparison =>
      cases value with
      | none => exact .noMatch
      | some text =>
          rw [evaluate, Satisfies]
          exact .dateTime comparison now text
  | binaryEqualTo expected =>
      cases value with
      | none => exact .noMatch
      | some text =>
          rw [evaluate, Satisfies]
          exact .evaluateBinary expected _
  | matchesJsonSchema schema =>
      cases value with
      | none => exact .noMatch
      | some text =>
          rw [evaluate, Satisfies]
          exact .jsonSchema schema text
  | and patterns induction =>
      rw [evaluate, Satisfies, evaluateEach_eq_map, satisfiesAll_iff]
      exact .all fun pattern member => induction pattern member value
  | or patterns induction =>
      rw [evaluate, Satisfies, evaluateEach_eq_map, satisfiesAny_iff]
      exact .any fun pattern member => induction pattern member value
  | not pattern induction =>
      rw [evaluate, Satisfies]
      exact (induction value).not

theorem satisfiesBytesAll_iff {patterns : List Pattern} {value : Option Bytes} :
    SatisfiesBytesAll now patterns value ↔
      ∀ pattern ∈ patterns, SatisfiesBytes now pattern value := by
  induction patterns with
  | nil => simp [SatisfiesBytesAll]
  | cons pattern rest induction => rw [SatisfiesBytesAll, induction, List.forall_mem_cons]

theorem satisfiesBytesAny_iff {patterns : List Pattern} {value : Option Bytes} :
    SatisfiesBytesAny now patterns value ↔
      ∃ pattern ∈ patterns, SatisfiesBytes now pattern value := by
  induction patterns with
  | nil => simp [SatisfiesBytesAny]
  | cons pattern rest induction => rw [SatisfiesBytesAny, induction, List.exists_mem_cons_iff]

theorem evaluateBytesEach_eq_map {R : Type} [Scalar R] (now : Calendar.Instant)
    (patterns : List Pattern) (value : Option Bytes) :
    (evaluateBytesEach now patterns value : List (MatchResult R)) =
      patterns.map fun pattern => evaluateBytes now pattern value := by
  induction patterns with
  | nil => simp [evaluateBytesEach]
  | cons pattern rest induction => simp [evaluateBytesEach, induction]

theorem decides_evaluateBytes (now : Calendar.Instant) (pattern : Pattern)
    (value : Option Bytes) :
    (evaluateBytes now pattern value : MatchResult Rat).Decides
      (SatisfiesBytes now pattern value) := by
  induction pattern using nestedInduction with
  | equalTo _ _ | contains _ | doesNotContain _ | matchesRegex _ | doesNotMatch _ | absent
  | equalToJson _ | matchesJsonPath _ _ _ | matchesXPath _ _ _ | dateTime _
  | matchesJsonSchema _ => exact decides_evaluate now _ _
  | binaryEqualTo expected =>
      cases value with
      | none => exact Decides.noMatch.congr (by simp [SatisfiesBytes])
      | some actual =>
          exact (Decides.evaluateBinary expected actual).congr (by simp [SatisfiesBytes])
  | and patterns induction =>
      rw [evaluateBytes, SatisfiesBytes, evaluateBytesEach_eq_map, satisfiesBytesAll_iff]
      exact .all induction
  | or patterns induction =>
      rw [evaluateBytes, SatisfiesBytes, evaluateBytesEach_eq_map, satisfiesBytesAny_iff]
      exact .any induction
  | not pattern induction =>
      rw [evaluateBytes, SatisfiesBytes]
      exact induction.not

end Pattern

end ServiceStub
