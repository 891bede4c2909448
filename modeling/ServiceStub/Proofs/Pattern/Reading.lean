import ServiceStub.Proofs.Pattern.Satisfaction

/-!
The two-valued reading of patterns, one clause for each operator.  The clauses leave no choice, and
exactness of what a pattern evaluates to obeys them.
-/

namespace ServiceStub

def Xml.XPath.Value.texts (document : Xml.Document) : Xml.XPath.Value → List String
  | .nodes positions => positions.map document.stringValue
  | .boolean holds => [toString holds]
  | .number value => [Decimal.plainText value]
  | .string text => [text]

namespace Pattern

def needsValue : Pattern → Bool
  | .absent | .and _ | .or _ | .not _ => false
  | _ => true

def readsText : Pattern → Bool
  | .binaryEqualTo _ | .and _ | .or _ | .not _ => false
  | _ => true

/-- One of the selected texts is as it should be, or an absent value is if there are none. -/
def HoldsOfSelected (holds : Option String → Prop) (texts : List String) : Prop :=
  (texts = [] ∧ holds none) ∨ ∃ text ∈ texts, holds (some text)

/-- What it is for a text, or no text at all, and for bytes to satisfy a pattern. -/
structure Reading (now : Calendar.Instant) (holds : Pattern → Option String → Prop)
    (holdsBytes : Pattern → Option Bytes → Prop) : Prop where
  missing : ∀ pattern, pattern.needsValue → ¬ holds pattern none
  absent : ∀ value, holds .absent value ↔ value = none
  equalTo : ∀ expected text, holds (.equalTo expected false) (some text) ↔ text = expected
  equalToIgnoreCase : ∀ expected text,
    holds (.equalTo expected true) (some text) ↔ Text.lower text = Text.lower expected
  contains : ∀ expected text,
    holds (.contains expected) (some text) ↔ expected.toList <:+: text.toList
  doesNotContain : ∀ expected text,
    holds (.doesNotContain expected) (some text) ↔ ¬ expected.toList <:+: text.toList
  matchesRegex : ∀ expression text,
    holds (.matchesRegex expression) (some text) ↔ expression.isMatch text
  doesNotMatch : ∀ expression text,
    holds (.doesNotMatch expression) (some text) ↔ ¬ expression.isMatch text
  equalToJson : ∀ equality text,
    holds (.equalToJson equality) (some text) ↔ (equality.evaluate text : MatchResult Rat).isExact
  matchesJsonPath : ∀ selector text,
    holds (.matchesJsonPath selector none) (some text) ↔
      ∃ document, Json.parse text = some document ∧ selector.path.select document ≠ []
  matchesJsonPathValue : ∀ selector value text,
    holds (.matchesJsonPath selector (some value)) (some text) ↔
      ∃ document, Json.parse text = some document ∧
        (HoldsOfSelected (holds value)
            ((selector.path.select document).map JsonSelector.render) ∨
          1 < (selector.path.select document).length ∧
            holds value (some (Json.array (selector.path.select document)).compact))
  matchesXPath : ∀ selector text,
    holds (.matchesXPath selector none) (some text) ↔
      ∃ document, Xml.parse text = some document ∧
        ∃ yielded, Xml.XPath.evaluate selector.path selector.namespaces document = some yielded ∧
          yielded ≠ .nodes [] ∧ yielded ≠ .boolean false
  matchesXPathValue : ∀ selector value text,
    holds (.matchesXPath selector (some value)) (some text) ↔
      ∃ document, Xml.parse text = some document ∧
        ∃ yielded, Xml.XPath.evaluate selector.path selector.namespaces document = some yielded ∧
          HoldsOfSelected (holds value) (yielded.texts document)
  dateTime : ∀ comparison text,
    holds (.dateTime comparison) (some text) ↔
      (comparison.evaluate now text : MatchResult Rat).isExact
  binaryEqualTo : ∀ expected text,
    holds (.binaryEqualTo expected) (some text) ↔ Text.toBytes text = expected
  matchesJsonSchema : ∀ schema text,
    holds (.matchesJsonSchema schema) (some text) ↔ (schema.evaluate text : MatchResult Rat).isExact
  and : ∀ patterns value, holds (.and patterns) value ↔ ∀ pattern ∈ patterns, holds pattern value
  or : ∀ patterns value, holds (.or patterns) value ↔ ∃ pattern ∈ patterns, holds pattern value
  not : ∀ pattern value, holds (.not pattern) value ↔ ¬ holds pattern value
  bytesOfText : ∀ pattern, pattern.readsText → ∀ value,
    (holdsBytes pattern value ↔ holds pattern (value.map Text.ofBytesLossy))
  bytesEqualTo : ∀ expected value,
    holdsBytes (.binaryEqualTo expected) value ↔ value = some expected
  bytesAnd : ∀ patterns value,
    holdsBytes (.and patterns) value ↔ ∀ pattern ∈ patterns, holdsBytes pattern value
  bytesOr : ∀ patterns value,
    holdsBytes (.or patterns) value ↔ ∃ pattern ∈ patterns, holdsBytes pattern value
  bytesNot : ∀ pattern value, holdsBytes (.not pattern) value ↔ ¬ holdsBytes pattern value

variable {now : Calendar.Instant}

private theorem candidates_eq_nil_iff {selector : JsonSelector} {document : Json} :
    selector.candidates document = [] ↔ selector.path.select document = [] := by
  simp only [JsonSelector.candidates, List.append_eq_nil_iff, List.map_eq_nil_iff,
    and_iff_left_iff_imp]
  intro nothing
  simp [nothing]

private theorem satisfiesSelected_candidates_iff {selector : JsonSelector} {value : Pattern}
    {document : Json} :
    SatisfiesSelected now (some value) (selector.candidates document) ↔
      HoldsOfSelected (Satisfies now value)
          ((selector.path.select document).map JsonSelector.render) ∨
        1 < (selector.path.select document).length ∧
          Satisfies now value (some (Json.array (selector.path.select document)).compact) := by
  rw [SatisfiesSelected, candidates_eq_nil_iff, HoldsOfSelected, List.map_eq_nil_iff, or_assoc]
  refine or_congr_right ?_
  simp only [JsonSelector.candidates, List.mem_append, or_and_right, exists_or]
  refine or_congr_right ?_
  split
  · next several => simp [several]
  · next few => simp [few]

private theorem select_eq {selector : XmlSelector} {text : String} :
    selector.select text =
      (Xml.parse text).bind fun document =>
        (Xml.XPath.evaluate selector.path selector.namespaces document).map fun yielded =>
          match yielded with
          | .boolean holds => .boolean holds
          | yielded => .texts (yielded.texts document) := by
  rw [XmlSelector.select]
  cases Xml.parse text with
  | none => rfl
  | some document =>
      cases evaluated : Xml.XPath.evaluate selector.path selector.namespaces document with
      | none => simp [bind, evaluated]
      | some yielded => cases yielded <;> simp [bind, evaluated, pure, Xml.XPath.Value.texts]

private theorem satisfies_matchesXPath_none_iff {selector : XmlSelector} {text : String} :
    Satisfies now (.matchesXPath selector none) (some text) ↔
      ∃ document, Xml.parse text = some document ∧
        ∃ yielded, Xml.XPath.evaluate selector.path selector.namespaces document = some yielded ∧
          yielded ≠ .nodes [] ∧ yielded ≠ .boolean false := by
  rw [satisfies_matchesXPath, select_eq]
  cases Xml.parse text with
  | none => simp
  | some document =>
      simp only [Option.bind_some, Option.some.injEq, exists_eq_left']
      cases Xml.XPath.evaluate selector.path selector.namespaces document with
      | none => simp
      | some yielded =>
          cases yielded <;> simp [SatisfiesSelected, Xml.XPath.Value.texts]

private theorem satisfies_matchesXPath_some_iff {selector : XmlSelector} {value : Pattern}
    {text : String} :
    Satisfies now (.matchesXPath selector (some value)) (some text) ↔
      ∃ document, Xml.parse text = some document ∧
        ∃ yielded, Xml.XPath.evaluate selector.path selector.namespaces document = some yielded ∧
          HoldsOfSelected (Satisfies now value) (yielded.texts document) := by
  rw [satisfies_matchesXPath, select_eq]
  cases Xml.parse text with
  | none => simp
  | some document =>
      simp only [Option.bind_some, Option.some.injEq, exists_eq_left']
      cases Xml.XPath.evaluate selector.path selector.namespaces document with
      | none => simp
      | some yielded =>
          cases yielded <;>
            simp [SatisfiesSelected, HoldsOfSelected, Xml.XPath.Value.texts]

private theorem reading_satisfies (now : Calendar.Instant) :
    Reading now (Satisfies now) (SatisfiesBytes now) where
  missing pattern asks satisfied := by
    cases pattern <;> simp_all [needsValue, Satisfies]
  absent value := by cases value <;> simp [Satisfies]
  equalTo expected text := by
    rw [Satisfies]
    exact eq_comm
  equalToIgnoreCase expected text := by
    rw [Satisfies]
    exact eq_comm
  contains expected text := by rw [Satisfies]
  doesNotContain expected text := by rw [Satisfies]
  matchesRegex expression text := by rw [Satisfies]
  doesNotMatch expression text := by rw [Satisfies]
  equalToJson equality text := by rw [Satisfies]
  matchesJsonPath selector text := by
    rw [Satisfies]
    cases Json.parse text with
    | none => simp
    | some document => simp [SatisfiesSelected, candidates_eq_nil_iff]
  matchesJsonPathValue selector value text := by
    rw [Satisfies]
    cases Json.parse text with
    | none => simp
    | some document => simp [satisfiesSelected_candidates_iff]
  matchesXPath _ _ := satisfies_matchesXPath_none_iff
  matchesXPathValue _ _ _ := satisfies_matchesXPath_some_iff
  dateTime comparison text := by rw [Satisfies]
  binaryEqualTo expected text := by rw [Satisfies]
  matchesJsonSchema schema text := by
    rw [Satisfies, (MatchResult.Decides.jsonSchema schema text).isExact_iff]
  and patterns value := by rw [Satisfies, satisfiesAll_iff]
  or patterns value := by rw [Satisfies, satisfiesAny_iff]
  not pattern value := by rw [Satisfies]
  bytesOfText pattern asks value := by
    cases pattern <;> simp_all [readsText, SatisfiesBytes]
  bytesEqualTo expected value := by rw [SatisfiesBytes]
  bytesAnd patterns value := by rw [SatisfiesBytes, satisfiesBytesAll_iff]
  bytesOr patterns value := by rw [SatisfiesBytes, satisfiesBytesAny_iff]
  bytesNot pattern value := by rw [SatisfiesBytes]

namespace Reading

variable {holds other : Pattern → Option String → Prop}
  {holdsBytes otherBytes : Pattern → Option Bytes → Prop}

/-- A pattern that needs a value is read alike where both readings say the same of texts. -/
theorem congr_of_some (first : Reading now holds holdsBytes)
    (second : Reading now other otherBytes) {pattern : Pattern} (needs : pattern.needsValue)
    (same : ∀ text, holds pattern (some text) ↔ other pattern (some text))
    (value : Option String) : holds pattern value ↔ other pattern value := by
  cases value with
  | none => exact iff_of_false (first.missing pattern needs) (second.missing pattern needs)
  | some text => exact same text

theorem congr (first : Reading now holds holdsBytes) (second : Reading now other otherBytes)
    (pattern : Pattern) (value : Option String) :
    holds pattern value ↔ other pattern value := by
  induction pattern using nestedInduction generalizing value with
  | equalTo expected caseInsensitive =>
      refine first.congr_of_some second rfl (fun text => ?_) value
      cases caseInsensitive with
      | false => rw [first.equalTo, second.equalTo]
      | true => rw [first.equalToIgnoreCase, second.equalToIgnoreCase]
  | contains expected =>
      exact first.congr_of_some second rfl
        (fun text => by rw [first.contains, second.contains]) value
  | doesNotContain expected =>
      exact first.congr_of_some second rfl
        (fun text => by rw [first.doesNotContain, second.doesNotContain]) value
  | matchesRegex expression =>
      exact first.congr_of_some second rfl
        (fun text => by rw [first.matchesRegex, second.matchesRegex]) value
  | doesNotMatch expression =>
      exact first.congr_of_some second rfl
        (fun text => by rw [first.doesNotMatch, second.doesNotMatch]) value
  | absent => rw [first.absent, second.absent]
  | equalToJson equality =>
      exact first.congr_of_some second rfl
        (fun text => by rw [first.equalToJson, second.equalToJson]) value
  | matchesJsonPath selector inner induction =>
      refine first.congr_of_some second rfl (fun text => ?_) value
      cases inner with
      | none => rw [first.matchesJsonPath, second.matchesJsonPath]
      | some pattern =>
          have same : holds pattern = other pattern :=
            funext fun value => propext (induction pattern rfl value)
          rw [first.matchesJsonPathValue, second.matchesJsonPathValue, same]
  | matchesXPath selector inner induction =>
      refine first.congr_of_some second rfl (fun text => ?_) value
      cases inner with
      | none => rw [first.matchesXPath, second.matchesXPath]
      | some pattern =>
          have same : holds pattern = other pattern :=
            funext fun value => propext (induction pattern rfl value)
          rw [first.matchesXPathValue, second.matchesXPathValue, same]
  | dateTime comparison =>
      exact first.congr_of_some second rfl
        (fun text => by rw [first.dateTime, second.dateTime]) value
  | binaryEqualTo expected =>
      exact first.congr_of_some second rfl
        (fun text => by rw [first.binaryEqualTo, second.binaryEqualTo]) value
  | matchesJsonSchema schema =>
      exact first.congr_of_some second rfl
        (fun text => by rw [first.matchesJsonSchema, second.matchesJsonSchema]) value
  | and patterns induction =>
      rw [first.and, second.and]
      exact forall₂_congr fun pattern member => induction pattern member value
  | or patterns induction =>
      rw [first.or, second.or]
      exact exists_congr fun pattern => and_congr_right fun member =>
        induction pattern member value
  | not pattern induction =>
      rw [first.not, second.not, induction]

private theorem congr_bytes (first : Reading now holds holdsBytes)
    (second : Reading now other otherBytes) (pattern : Pattern) (value : Option Bytes) :
    holdsBytes pattern value ↔ otherBytes pattern value := by
  induction pattern using nestedInduction with
  | equalTo _ _ | contains _ | doesNotContain _ | matchesRegex _ | doesNotMatch _ | absent
  | equalToJson _ | matchesJsonPath _ _ _ | matchesXPath _ _ _ | dateTime _
  | matchesJsonSchema _ =>
      rw [first.bytesOfText _ rfl, second.bytesOfText _ rfl]
      exact first.congr second _ _
  | binaryEqualTo expected => rw [first.bytesEqualTo, second.bytesEqualTo]
  | and patterns induction =>
      rw [first.bytesAnd, second.bytesAnd]
      exact forall₂_congr induction
  | or patterns induction =>
      rw [first.bytesOr, second.bytesOr]
      exact exists_congr fun pattern => and_congr_right (induction pattern)
  | not pattern induction =>
      rw [first.bytesNot, second.bytesNot, induction]

end Reading

/-- Distances lie between zero and one, and there is exactly one reading of patterns: that a value
satisfies a pattern just if the pattern evaluates to an exact match on it. -/
theorem reading_iff_isExact (now : Calendar.Instant) :
    (∀ pattern value, (evaluate now pattern value : MatchResult Rat).InRange) ∧
      (∀ pattern value, (evaluateBytes now pattern value : MatchResult Rat).InRange) ∧
      ∀ holds holdsBytes, Reading now holds holdsBytes ↔
        (∀ pattern value,
          holds pattern value ↔ (evaluate now pattern value : MatchResult Rat).isExact) ∧
        ∀ pattern value,
          holdsBytes pattern value ↔
            (evaluateBytes now pattern value : MatchResult Rat).isExact := by
  refine ⟨fun pattern value => (decides_evaluate now pattern value).toInRange,
    fun pattern value => (decides_evaluateBytes now pattern value).toInRange,
    fun holds holdsBytes => ⟨fun reading => ⟨fun pattern value => ?_, fun pattern value => ?_⟩, ?_⟩⟩
  · exact (reading.congr (reading_satisfies now) pattern value).trans
      (decides_evaluate now pattern value).isExact_iff.symm
  · exact (reading.congr_bytes (reading_satisfies now) pattern value).trans
      (decides_evaluateBytes now pattern value).isExact_iff.symm
  · rintro ⟨texts, bytes⟩
    have sameTexts : holds = Satisfies now := funext₂ fun pattern value => propext
      ((texts pattern value).trans (decides_evaluate now pattern value).isExact_iff)
    have sameBytes : holdsBytes = SatisfiesBytes now := funext₂ fun pattern value => propext
      ((bytes pattern value).trans (decides_evaluateBytes now pattern value).isExact_iff)
    rw [sameTexts, sameBytes]
    exact reading_satisfies now

end Pattern

end ServiceStub
