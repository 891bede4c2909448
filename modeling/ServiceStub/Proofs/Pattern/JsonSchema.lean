import ServiceStub.Pattern.Basic
import ServiceStub.Proofs.Json.Validity
import Mathlib.Data.List.Permutation

/-!
Matching documents against a schema.  Exact matches are the valid documents, and the distance of any
other tells how many violations it has.
-/

namespace ServiceStub.JsonSchema

open Json.Schema

variable {R : Type} [Scalar R] [MatchResult.DecidesExactness R]

private theorem isChecked (schema : JsonSchema) : Checked schema.document := ⟨"#", schema.checked⟩

private theorem ofJson_document (schema : JsonSchema) : ofJson schema.document = .ok schema := by
  rw [ofJson]
  split
  · rfl
  · next rejected =>
      rw [schema.checked] at rejected
      cases rejected

private theorem isExact_evaluate_iff (schema : JsonSchema) {text : String} {document : Json}
    (parsed : Json.parse text = some document) :
    (schema.evaluate text : MatchResult R).isExact ↔ schema.violations document = 0 := by
  rw [evaluate, parsed]
  dsimp only
  split
  · next none => exact iff_of_true MatchResult.DecidesExactness.isExact_exact none
  · next some =>
      rw [MatchResult.DecidesExactness.isExact_mismatch]
      exact iff_of_false Bool.false_ne_true some

def distanceAt (count : Nat) : Rat := count / (count + 1)

private theorem strictMono_distanceAt : StrictMono distanceAt := by
  refine strictMono_nat_of_lt_succ fun count => ?_
  rw [distanceAt, distanceAt, div_lt_div_iff₀ (by positivity) (by positivity)]
  push_cast
  nlinarith

private theorem distance_mismatch_ratio {count : Nat} (positive : 0 < count) :
    (MatchResult.mismatch (Scalar.ratio count (count + 1)) : MatchResult Rat).distance =
      distanceAt count := by
  have ratio : (Scalar.ratio count (count + 1) : Rat) = distanceAt count := by
    simp [Scalar.ratio, distanceAt]
  have least : distanceAt 1 ≤ distanceAt count := strictMono_distanceAt.monotone positive
  have most : distanceAt count ≤ 1 := by
    rw [distanceAt, div_le_one (by positivity)]
    linarith
  have smallest : (MatchResult.smallestMismatch : Rat) ≤ distanceAt 1 := by
    norm_num [MatchResult.smallestMismatch, Scalar.ratio, distanceAt]
  have nonneg : 0 ≤ distanceAt count := div_nonneg (Nat.cast_nonneg _) (by positivity)
  rw [MatchResult.mismatch_eq, MatchResult.distance_graded, ratio,
    max_eq_left (smallest.trans least), min_eq_left most, max_eq_right nonneg]

private theorem distance_evaluate (schema : JsonSchema) {text : String} {document : Json}
    (parsed : Json.parse text = some document) (broken : schema.violations document ≠ 0) :
    (schema.evaluate text : MatchResult Rat).distance =
      distanceAt (schema.violations document) := by
  rw [evaluate, parsed]
  dsimp only
  split
  · next none => exact absurd none broken
  · exact distance_mismatch_ratio (Nat.pos_of_ne_zero broken)

/-- A document is an exact match just if it is valid under the schema, and the distance of any other
rises with each of its violations and tells nothing else. -/
theorem exact_iff_valid :
    (∀ (schema : JsonSchema) (text : String) (document : Json),
      schema.document.IsCanonical → Json.parse text = some document →
        ((schema.evaluate text : MatchResult R).isExact ↔ Valid schema.document document)) ∧
    ∃ distance : Nat → Rat, StrictMono distance ∧
      ∀ (schema : JsonSchema) (text : String) (document : Json),
        schema.document.IsCanonical → Json.parse text = some document →
          ¬Valid schema.document document →
            (schema.evaluate text : MatchResult Rat).distance =
              distance (schema.violations document) := by
  have unbroken (schema : JsonSchema) {text : String} {document : Json}
      (canonical : schema.document.IsCanonical) (parsed : Json.parse text = some document) :
      schema.violations document = 0 ↔ Valid schema.document document :=
    violations_eq_zero_iff schema.isChecked canonical (Json.isCanonical_parse parsed)
  refine ⟨fun schema text document canonical parsed => ?_, distanceAt, strictMono_distanceAt,
    fun schema text document canonical parsed invalid => ?_⟩
  · rw [schema.isExact_evaluate_iff parsed, unbroken schema canonical parsed]
  · refine schema.distance_evaluate parsed fun none => invalid ?_
    exact (unbroken schema canonical parsed).mp none

def integers : JsonSchema where
  document := .object [("items", .object [("type", .string "integer")]), ("minItems", .ofNat 1)]
  checked := by decide +kernel

theorem exact_iff_valid_integers :
    integers.document.IsCanonical ∧ Json.parse "[1,2]" = some (.array [.ofNat 1, .ofNat 2]) ∧
      Json.parse "[null]" = some (.array [.null]) ∧
      Json.parse "[null,null]" = some (.array [.null, .null]) ∧
      Valid integers.document (.array [.ofNat 1, .ofNat 2]) ∧
      ¬Valid integers.document (.array [.null]) ∧
      ¬Valid integers.document (.array [.null, .null]) ∧
      (integers.evaluate "[null]" : MatchResult Rat).distance <
        (integers.evaluate "[null,null]" : MatchResult Rat).distance := by
  have canonical : integers.document.IsCanonical := by cbv
  have valid : Json.parse "[1,2]" = some (.array [.ofNat 1, .ofNat 2]) := by cbv
  have once : Json.parse "[null]" = some (.array [.null]) := by cbv
  have twice : Json.parse "[null,null]" = some (.array [.null, .null]) := by cbv
  obtain ⟨exact, distance, increases, same⟩ := exact_iff_valid (R := Rat)
  have notOnce : ¬Valid integers.document (.array [.null]) := by
    rw [← exact integers _ _ canonical once, isExact_evaluate_iff _ once]
    decide +kernel
  have notTwice : ¬Valid integers.document (.array [.null, .null]) := by
    rw [← exact integers _ _ canonical twice, isExact_evaluate_iff _ twice]
    decide +kernel
  refine ⟨canonical, valid, once, twice, (exact integers _ _ canonical valid).mp ?_, notOnce,
    notTwice, ?_⟩
  · rw [isExact_evaluate_iff _ valid]
    decide +kernel
  · rw [same integers _ _ canonical once notOnce, same integers _ _ canonical twice notTwice]
    exact increases (by decide +kernel)

/-- An empty list of types is no choice, and a number of items with a fraction is no number of
items: neither makes a document invalid. -/
theorem exact_where_keyword_is_unread :
    (∃ schema, ofJson (.object [("type", .array [])]) = .ok schema ∧
      Json.parse "null" = some .null ∧ (schema.evaluate "null" : MatchResult Rat).isExact ∧
      ¬∃ name, Json.string name ∈ ([] : List Json) ∧ IsOfType name .null) ∧
    ∃ schema, ofJson (.object [("minItems", .number (.double 2))]) = .ok schema ∧
      Json.parse "[]" = some (.array []) ∧ (schema.evaluate "[]" : MatchResult Rat).isExact ∧
      ∃ least, Double.value? 2 = some least ∧ (([] : List Json).length : Rat) < least := by
  have nothing : Json.parse "null" = some .null := by cbv
  have noItems : Json.parse "[]" = some (.array []) := by cbv
  let untyped : JsonSchema := ⟨.object [("type", .array [])], by decide +kernel⟩
  let fractional : JsonSchema := ⟨.object [("minItems", .number (.double 2))], by decide +kernel⟩
  refine ⟨⟨untyped, ofJson_document untyped, nothing, ?_, ?_⟩,
    ⟨fractional, ofJson_document fractional, noItems, ?_, 2, ?_, by norm_num⟩⟩
  · rw [isExact_evaluate_iff _ nothing]
    decide +kernel
  · rintro ⟨name, listed, -⟩
    cases listed
  · rw [isExact_evaluate_iff _ noItems]
    decide +kernel
  · exact Double.value?_ofInt_of_natAbs_le (by decide : (2 : Int).natAbs ≤ 2 ^ 53)

/-- Judging a document comes to nothing but booleans and objects whose patterns can be compiled, so
that it makes no difference what is done with anything else. -/
theorem reaches_schemas_only (schema : JsonSchema) (value : Json) :
    (∀ inner part, Reaches schema.document value inner part → IsSchema inner) ∧
      ∀ violationsOf : Json → Json → Nat,
        (∀ inner part, Reaches schema.document value inner part → IsSchema inner →
          violationsOf inner part = tallySchema violationsOf inner part) →
            violationsOf schema.document value = schema.violations value :=
  ⟨fun _ _ reaches => (schema.isChecked.reaches reaches).isSchema,
    fun _ steps => schema.isChecked.count_eq_violations steps .start⟩

def identified : JsonSchema where
  document := .object [("allOf", .array [.object [("properties",
    .object [("id", .object [("pattern", .string "^[a-z]")])])]])]
  checked := by decide +kernel

theorem reaches_schemas_only_identified :
    let inner : Json := .object [("pattern", .string "^[a-z]")]
    Reaches identified.document (.object [("id", .string "7")]) inner (.string "7") ∧
      IsSchema inner := by
  intro inner
  have listed : Reaches identified.document (.object [("id", .string "7")])
      (.object [("properties", .object [("id", inner)])]) (.object [("id", .string "7")]) :=
    .step .start (by decide +kernel) (.combined List.mem_cons_self rfl List.mem_cons_self)
  have reaches : Reaches identified.document (.object [("id", .string "7")]) inner (.string "7") :=
    .step listed (by decide +kernel) (.property List.mem_cons_self rfl rfl)
  exact ⟨reaches, (reaches_schemas_only identified _).1 _ _ reaches⟩

end ServiceStub.JsonSchema
