import ServiceStub.Proofs.Distance
import ServiceStub.Proofs.Pattern.Satisfaction
import ServiceStub.Proofs.Text.Utf8

/-!
What holds of every evaluation of a pattern, whatever the pattern and the value: the result is a
distance between zero and one, and a text evaluates as its bytes do.
-/

namespace ServiceStub

private theorem Text.ofBytesLossy_toBytes (text : String) : ofBytesLossy (toBytes text) = text := by
  rw [ofBytesLossy, ofBytes?_toBytes]

namespace MatchResult

variable {R : Type} [Scalar R] [OrderedScalar R]

private theorem measured_ite_mismatch {holds : Prop} [Decidable holds] (distance : R) :
    (if holds then exact else mismatch distance : MatchResult R).Measured := by
  split
  · exact measured_exact
  · exact measured_mismatch distance

private theorem measured_jsonEquality (equality : JsonEquality) (text : String) :
    (equality.evaluate text : MatchResult R).Measured := by
  rw [JsonEquality.evaluate]
  split
  · exact measured_noMatch
  · simp only [JsonEquality.evaluateDocument]
    split
    · exact measured_exact
    · split
      · split
        · exact measured_mismatch _
        · exact measured_exact
      · exact measured_mismatch _

private theorem measured_dateTime (comparison : DateTimePattern) (now : Calendar.Instant)
    (text : String) : (comparison.evaluate now text : MatchResult R).Measured := by
  rw [DateTimePattern.evaluate]
  split
  · exact measured_of _
  · exact measured_noMatch

private theorem measured_jsonSchema (schema : JsonSchema) (text : String) :
    (schema.evaluate text : MatchResult R).Measured := by
  rw [JsonSchema.evaluate]
  split
  · exact measured_noMatch
  · split
    · exact measured_exact
    · exact measured_mismatch _

end MatchResult

namespace Pattern

section Measured

open MatchResult

variable {R : Type} [Scalar R] [OrderedScalar R] {now : Calendar.Instant}

private theorem measured_evaluateSelected {value : Option Pattern}
    (inner : ∀ pattern ∈ value, ∀ text, (evaluate now pattern text : MatchResult R).Measured)
    (candidates : List String) :
    (evaluateSelected now value candidates : MatchResult R).Measured := by
  cases value with
  | none =>
      rw [evaluateSelected]
      exact measured_of _
  | some pattern =>
      rw [evaluateSelected]
      split
      · exact inner pattern rfl none
      · exact measured_any (List.forall_mem_map.mpr fun text _ => inner pattern rfl (some text))

private theorem measured_of_present {pattern : Pattern}
    (absent : evaluate now pattern none = (noMatch : MatchResult R))
    (present : ∀ text, (evaluate now pattern (some text) : MatchResult R).Measured)
    (value : Option String) : (evaluate now pattern value : MatchResult R).Measured := by
  cases value with
  | none =>
      rw [absent]
      exact measured_noMatch
  | some text => exact present text

theorem measured_evaluate (now : Calendar.Instant) (pattern : Pattern) (value : Option String) :
    (evaluate now pattern value : MatchResult R).Measured := by
  induction pattern using nestedInduction generalizing value with
  | absent =>
      rw [evaluate]
      exact measured_of _
  | and patterns induction =>
      rw [evaluate, evaluateEach_eq_map]
      exact measured_all (List.forall_mem_map.mpr fun pattern member =>
        induction pattern member value)
  | or patterns induction =>
      rw [evaluate, evaluateEach_eq_map]
      exact measured_any (List.forall_mem_map.mpr fun pattern member =>
        induction pattern member value)
  | not pattern _ =>
      rw [evaluate]
      exact measured_of _
  | equalTo expected caseInsensitive =>
      refine measured_of_present rfl (fun text => ?_) value
      rw [evaluate]
      exact measured_ite_mismatch _
  | contains expected =>
      refine measured_of_present rfl (fun text => ?_) value
      rw [evaluate]
      exact measured_ite_mismatch _
  | doesNotContain expected =>
      refine measured_of_present rfl (fun text => ?_) value
      rw [evaluate]
      exact measured_of _
  | matchesRegex expression =>
      refine measured_of_present rfl (fun text => ?_) value
      rw [evaluate]
      exact measured_ite_mismatch _
  | doesNotMatch expression =>
      refine measured_of_present rfl (fun text => ?_) value
      rw [evaluate]
      exact measured_of _
  | equalToJson equality =>
      refine measured_of_present rfl (fun text => ?_) value
      rw [evaluate]
      exact measured_jsonEquality equality text
  | matchesJsonPath selector inner induction =>
      refine measured_of_present rfl (fun text => ?_) value
      rw [evaluate]
      cases Json.parse text with
      | none => exact measured_noMatch
      | some document => exact measured_evaluateSelected induction _
  | matchesXPath selector inner induction =>
      refine measured_of_present rfl (fun text => ?_) value
      rw [evaluate_matchesXPath]
      split
      · exact measured_noMatch
      · exact measured_of _
      · exact induction _ rfl _
      · exact measured_evaluateSelected induction _
  | dateTime comparison =>
      refine measured_of_present rfl (fun text => ?_) value
      rw [evaluate]
      exact measured_dateTime comparison now text
  | binaryEqualTo expected =>
      refine measured_of_present rfl (fun text => ?_) value
      rw [evaluate]
      exact measured_ite_mismatch _
  | matchesJsonSchema schema =>
      refine measured_of_present rfl (fun text => ?_) value
      rw [evaluate]
      exact measured_jsonSchema schema text

theorem measured_evaluateBytes (now : Calendar.Instant) (pattern : Pattern)
    (value : Option Bytes) : (evaluateBytes now pattern value : MatchResult R).Measured := by
  induction pattern using nestedInduction with
  | equalTo _ _ | contains _ | doesNotContain _ | matchesRegex _ | doesNotMatch _ | absent
  | equalToJson _ | matchesJsonPath _ _ _ | matchesXPath _ _ _ | dateTime _
  | matchesJsonSchema _ => exact measured_evaluate now _ _
  | binaryEqualTo expected =>
      cases value with
      | none => exact measured_noMatch
      | some actual => exact measured_ite_mismatch _
  | and patterns induction =>
      rw [evaluateBytes, evaluateBytesEach_eq_map]
      exact measured_all (List.forall_mem_map.mpr induction)
  | or patterns induction =>
      rw [evaluateBytes, evaluateBytesEach_eq_map]
      exact measured_any (List.forall_mem_map.mpr induction)
  | not pattern _ =>
      rw [evaluateBytes]
      exact measured_of _

end Measured

variable {R : Type} [Scalar R]

theorem evaluateBytes_map_toBytes (now : Calendar.Instant) (pattern : Pattern)
    (value : Option String) :
    (evaluateBytes now pattern (value.map Text.toBytes) : MatchResult R) =
      evaluate now pattern value := by
  have inverse : Text.ofBytesLossy ∘ Text.toBytes = id := funext Text.ofBytesLossy_toBytes
  have sameText : (value.map Text.toBytes).map Text.ofBytesLossy = value := by
    rw [Option.map_map, inverse, Option.map_id_apply]
  induction pattern using nestedInduction with
  | equalTo _ _ | contains _ | doesNotContain _ | matchesRegex _ | doesNotMatch _ | absent
  | equalToJson _ | matchesJsonPath _ _ _ | matchesXPath _ _ _ | dateTime _
  | matchesJsonSchema _ => rw [evaluateBytes, sameText] <;> simp
  | binaryEqualTo expected =>
      cases value with
      | none => rfl
      | some text => rw [evaluate, Option.map_some, evaluateBytes]
  | and patterns induction =>
      rw [evaluateBytes, evaluate, evaluateBytesEach_eq_map, evaluateEach_eq_map,
        List.map_congr_left induction]
  | or patterns induction =>
      rw [evaluateBytes, evaluate, evaluateBytesEach_eq_map, evaluateEach_eq_map,
        List.map_congr_left induction]
  | not pattern induction => rw [evaluateBytes, evaluate, induction]

/-- A text evaluates as its bytes do, and so does an absent value.  This is so at every depth, as
the bytes of a text hold that text again. -/
theorem bytes_evaluate_as_text (R : Type) [Scalar R] (now : Calendar.Instant)
    (pattern : Pattern) :
    (∀ text : String,
      (evaluateBytes now pattern (some (Text.toBytes text)) : MatchResult R) =
        evaluate now pattern (some text)) ∧
    (evaluateBytes now pattern none : MatchResult R) = evaluate now pattern none :=
  ⟨fun text => evaluateBytes_map_toBytes now pattern (some text),
    evaluateBytes_map_toBytes now pattern none⟩

end Pattern

end ServiceStub
