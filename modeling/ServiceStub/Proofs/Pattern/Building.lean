import ServiceStub.Proofs.Pattern.Declaration

/-!
What a definition that is read from a document builds is a pattern that a document may declare.
A definition with other than one operator builds nothing.
-/

namespace ServiceStub

variable {error : PatternError}

theorem WholeRegex.source_of_ofString {expression : String} {regex : WholeRegex}
    (compiled : WholeRegex.ofString expression = .ok regex) : regex.source = expression := by
  rw [WholeRegex.ofString] at compiled
  split at compiled
  · cases compiled
    rfl
  · cases compiled
  · cases compiled

private theorem JsonSelector.expression_of_ofString {expression : String} {selector : JsonSelector}
    (compiled : JsonSelector.ofString expression = .ok selector) :
    selector.expression = expression := by
  rw [JsonSelector.ofString] at compiled
  split at compiled
  · cases compiled
    rfl
  · cases compiled

private theorem XmlSelector.parts_of_ofString {expression : String}
    {namespaces : List (String × String)} {selector : XmlSelector}
    (compiled : XmlSelector.ofString expression namespaces = .ok selector) :
    selector.expression = expression ∧ selector.namespaces = namespaces := by
  rw [XmlSelector.ofString] at compiled
  split at compiled
  · cases compiled
    exact ⟨rfl, rfl⟩
  · cases compiled

private theorem JsonSchema.document_of_ofJson {document : Json} {schema : JsonSchema}
    (compiled : JsonSchema.ofJson document = .ok schema) : schema.document = document := by
  rw [JsonSchema.ofJson] at compiled
  split at compiled
  · cases compiled
    rfl
  · cases compiled

namespace PatternDefinition

private theorem of_applying {α β : Type} {value : Option β} {apply : α → β → Except PatternError α}
    {start result : α} {Holds : α → Prop} (holds : Holds start)
    (step : ∀ part ∈ value, ∀ before after, Holds before → apply before part = .ok after →
      Holds after)
    (applied : applying value apply start = .ok result) : Holds result := by
  cases value with
  | none =>
      cases applied
      exact holds
  | some part => exact step part rfl start result holds applied

end PatternDefinition

namespace DateTimePattern

private theorem built_of_ofText {comparison : DateTimeComparison} {text : String}
    {format : Option String}
    {pattern : DateTimePattern} (compiled : ofText comparison text format = .ok pattern) :
    pattern.Built := by
  rw [ofText] at compiled
  split at compiled
  · next expected found =>
      cases compiled
      refine ⟨found, fun offset given => ?_⟩
      cases given
  · cases compiled

theorem Built.withOffset {before after : DateTimePattern} {amount : Int} {unit : String}
    (built : before.Built) (word : amount < 0x8000000000000000)
    (applied : before.withOffset amount unit = .ok after) : after.Built := by
  unfold DateTimePattern.withOffset at applied
  split at applied
  · cases applied
    refine ⟨built.moment, fun offset given => ?_⟩
    cases given
    exact word
  · cases applied

theorem Built.truncatingExpected {before after : DateTimePattern} {name : String}
    (built : before.Built) (applied : before.truncatingExpected name = .ok after) :
    after.Built := by
  obtain ⟨truncation, -, same⟩ := bind_eq_ok.mp applied
  cases same
  exact ⟨built.moment, built.word⟩

theorem Built.truncatingActual {before after : DateTimePattern} {name : String}
    (built : before.Built) (applied : before.truncatingActual name = .ok after) :
    after.Built := by
  obtain ⟨truncation, -, same⟩ := bind_eq_ok.mp applied
  cases same
  exact ⟨built.moment, built.word⟩

end DateTimePattern

namespace PatternDefinition

private theorem wellFormed_of_readOptions {record : Record} {options : PatternOptions}
    (given : readOptions record = some options) : options.WellFormed := by
  simp only [readOptions, bind_pure_comp, Option.bind_eq_bind, Option.bind_eq_some_iff,
    Option.map_eq_map, Option.map_eq_some_iff] at given
  obtain ⟨-, -, -, -, -, -, -, -, namespaces, namespacesGiven, -, -, -, -, offset, offsetGiven,
    -, -, -, -, -, -, rfl⟩ := given
  constructor
  · rintro _ rfl
    obtain ⟨document, -, read⟩ := Record.of_optional namespacesGiven
    exact (Json.ascending_of_tableOf? read).1
  · rintro amount rfl
    obtain ⟨document, -, read⟩ := Record.of_optional offsetGiven
    rw [Json.asSignedWord?, Option.filter_eq_some_iff] at read
    exact of_decide_eq_true read.2

end PatternDefinition

namespace Pattern

private theorem built_of_dateTime {options : PatternOptions} {comparison : DateTimeComparison}
    {text : String} {pattern : Pattern} (wellFormed : options.WellFormed)
    (compiled : PatternDefinition.dateTime options comparison text = .ok pattern) :
    Built pattern := by
  obtain ⟨start, started, compiled⟩ := bind_eq_ok.mp compiled
  obtain ⟨shifted, shift, compiled⟩ := bind_eq_ok.mp compiled
  obtain ⟨truncated, truncate, compiled⟩ := bind_eq_ok.mp compiled
  obtain ⟨whole, truncateActual, compiled⟩ := bind_eq_ok.mp compiled
  cases compiled
  have built := DateTimePattern.built_of_ofText started
  have built : shifted.Built := PatternDefinition.of_applying built
    (fun amount given _ _ before => before.withOffset (wellFormed.word amount given)) shift
  have built : truncated.Built := PatternDefinition.of_applying built
    (fun _ _ _ _ before => before.truncatingExpected) truncate
  have built : whole.Built := PatternDefinition.of_applying built
    (fun _ _ _ _ before => before.truncatingActual) truncateActual
  exact .dateTime ⟨built.moment, built.word⟩

def HasPlainOperands (pattern : Pattern) : Prop :=
  ∀ operand ∈ pattern.jsonOperands, operand.isPlain

private theorem mem_jsonOperandsOfAll {patterns : List Pattern} {operand : Json} :
    operand ∈ jsonOperandsOfAll patterns ↔
      ∃ pattern ∈ patterns, operand ∈ pattern.jsonOperands := by
  induction patterns with
  | nil => simp [jsonOperandsOfAll]
  | cons pattern rest induction => simp [jsonOperandsOfAll, induction]

private theorem hasPlainOperands_of_mem {patterns : List Pattern}
    (plain : ∀ operand ∈ jsonOperandsOfAll patterns, operand.isPlain) :
    ∀ pattern ∈ patterns, pattern.HasPlainOperands :=
  fun pattern member operand listed =>
    plain operand (mem_jsonOperandsOfAll.mpr ⟨pattern, member, listed⟩)

private theorem hasPlainOperands_of_value {value : Option Pattern}
    (plain : ∀ operand ∈ jsonOperandsOfValue value, operand.isPlain) :
    ∀ pattern ∈ value, pattern.HasPlainOperands := by
  rintro pattern rfl
  exact plain

end Pattern

open Pattern (Built HasPlainOperands)

namespace PatternDefinition

/-- What a definition builds is a pattern that a document may declare. -/
def Sound (definition : PatternDefinition) : Prop :=
  ∀ pattern, definition.compile = .ok pattern → pattern.HasPlainOperands → Built pattern

end PatternDefinition

/-- Documents as operands are canonical, and definitions inside an operator are sound. -/
def OperatorDefinition.Sound : OperatorDefinition → Prop
  | .equalToJson expected => expected.IsCanonical
  | .matchesJsonPath _ value => ∀ definition ∈ value, definition.Sound
  | .matchesXPath _ value => ∀ definition ∈ value, definition.Sound
  | .matchesJsonSchema schema => schema.IsCanonical ∧ schema ≠ .null
  | .and definitions => ∀ definition ∈ definitions, definition.Sound
  | .or definitions => ∀ definition ∈ definitions, definition.Sound
  | .not definition => definition.Sound
  | _ => True

namespace PatternDefinition

theorem within_eq_ok {α : Type} {field : String} {result : Except PatternError α} {value : α} :
    within field result = .ok value ↔ result = .ok value := by
  cases result with
  | ok inner => rfl
  | error fault => simp [within]

private theorem exists_of_compileValue {value : Option PatternDefinition} {result : Option Pattern}
    (compiled : compileValue value = .ok result) :
    ∀ pattern ∈ result, ∃ definition ∈ value, definition.compile = .ok pattern := by
  rintro pattern rfl
  cases value with
  | none => cases compiled
  | some definition =>
      rcases definition with ⟨_ | ⟨operator, operators⟩, options⟩
      · cases compiled
      · rw [compileValue] at compiled
        · obtain ⟨built, given, same⟩ := bind_eq_ok.mp compiled
          cases same
          exact ⟨_, rfl, given⟩
        · intro other same
          cases same

theorem exists_of_compileEach {field : String} {index : Nat}
    {definitions : List PatternDefinition} {patterns : List Pattern}
    (compiled : compileEach field index definitions = .ok patterns) :
    patterns.length = definitions.length ∧
      ∀ pattern ∈ patterns, ∃ definition ∈ definitions, definition.compile = .ok pattern := by
  induction definitions generalizing index patterns with
  | nil =>
      rw [compileEach] at compiled
      cases compiled
      exact ⟨rfl, fun _ member => absurd member List.not_mem_nil⟩
  | cons definition rest induction =>
      rw [compileEach] at compiled
      obtain ⟨first, firstCompiled, compiled⟩ := bind_eq_ok.mp compiled
      obtain ⟨others, othersCompiled, same⟩ := bind_eq_ok.mp compiled
      cases same
      obtain ⟨length, each⟩ := induction othersCompiled
      refine ⟨by simp [length], List.forall_mem_cons.mpr ⟨?_, fun pattern member => ?_⟩⟩
      · exact ⟨definition, List.mem_cons_self, within_eq_ok.mp firstCompiled⟩
      · obtain ⟨source, listed, given⟩ := each pattern member
        exact ⟨source, List.mem_cons_of_mem definition listed, given⟩

variable {options : PatternOptions} {pattern : Pattern}

theorem exists_of_jsonEquality {expected : Json} (canonical : expected.IsCanonical)
    (compiled : jsonEquality options expected = .ok pattern) :
    ∃ equality : JsonEquality, pattern = .equalToJson equality ∧
      equality.expected.IsCanonical := by
  unfold jsonEquality at compiled
  split at compiled
  · split at compiled
    · next document parsed =>
        cases compiled
        exact ⟨_, rfl, Json.isCanonical_parse parsed⟩
    · cases compiled
  · cases compiled
    exact ⟨_, rfl, canonical⟩

private theorem built_of_jsonEquality {expected : Json} (canonical : expected.IsCanonical)
    (compiled : jsonEquality options expected = .ok pattern) (plain : pattern.HasPlainOperands) :
    Built pattern := by
  obtain ⟨equality, rfl, canonical⟩ := exists_of_jsonEquality canonical compiled
  exact .equalToJson canonical (plain equality.expected List.mem_cons_self)

private theorem built_of_compileValue {value : Option PatternDefinition} {result : Option Pattern}
    (sound : ∀ definition ∈ value, definition.Sound) (compiled : compileValue value = .ok result)
    (plain : ∀ pattern ∈ result, pattern.HasPlainOperands) :
    ∀ pattern ∈ result, Built pattern := by
  intro pattern member
  obtain ⟨definition, given, inner⟩ := exists_of_compileValue compiled pattern member
  exact sound definition given pattern inner (plain pattern member)

private theorem built_of_compileEach {field : String} {definitions : List PatternDefinition}
    {patterns : List Pattern} (sound : ∀ definition ∈ definitions, definition.Sound)
    (compiled : compileEach field 0 definitions = .ok patterns)
    (plain : ∀ pattern ∈ patterns, pattern.HasPlainOperands) :
    ∀ pattern ∈ patterns, Built pattern := by
  intro pattern member
  obtain ⟨definition, given, inner⟩ := (exists_of_compileEach compiled).2 pattern member
  exact sound definition given pattern inner (plain pattern member)

theorem ne_nil_of_compileEach {field : String} {definition : PatternDefinition}
    {definitions : List PatternDefinition} {patterns : List Pattern}
    (compiled : compileEach field 0 (definition :: definitions) = .ok patterns) :
    patterns ≠ [] := by
  rintro rfl
  cases (exists_of_compileEach compiled).1

private theorem built_of_compileOperator {operator : OperatorDefinition}
    (wellFormed : options.WellFormed) (sound : operator.Sound)
    (compiled : compileOperator options operator = .ok pattern)
    (plain : pattern.HasPlainOperands) : Built pattern := by
  -- Most parts keep the text they were compiled from, so it compiles to them again.
  cases operator with
  | equalTo expected =>
      cases compiled
      exact .equalTo _ _
  | contains expected =>
      cases compiled
      exact .contains expected
  | doesNotContain expected =>
      cases compiled
      exact .doesNotContain expected
  | matchesRegex expression =>
      obtain ⟨regex, given, same⟩ := bind_eq_ok.mp compiled
      cases same
      exact .matchesRegex (by rw [WholeRegex.source_of_ofString given, given])
  | doesNotMatch expression =>
      obtain ⟨regex, given, same⟩ := bind_eq_ok.mp compiled
      cases same
      exact .doesNotMatch (by rw [WholeRegex.source_of_ofString given, given])
  | absent =>
      cases compiled
      exact .absent
  | equalToJson expected => exact built_of_jsonEquality sound compiled plain
  | matchesJsonPath expression value =>
      obtain ⟨inner, innerCompiled, compiled⟩ := bind_eq_ok.mp compiled
      obtain ⟨selector, given, same⟩ := bind_eq_ok.mp compiled
      cases same
      exact .matchesJsonPath (by rw [JsonSelector.expression_of_ofString given, given])
        (built_of_compileValue sound (within_eq_ok.mp innerCompiled)
          (Pattern.hasPlainOperands_of_value plain))
  | matchesXPath expression value =>
      obtain ⟨inner, innerCompiled, compiled⟩ := bind_eq_ok.mp compiled
      obtain ⟨selector, given, same⟩ := bind_eq_ok.mp compiled
      cases same
      obtain ⟨text, namespaces⟩ := XmlSelector.parts_of_ofString given
      refine .matchesXPath (by rw [text, namespaces, given]) ?_
        (built_of_compileValue sound (within_eq_ok.mp innerCompiled)
          (Pattern.hasPlainOperands_of_value plain))
      rw [namespaces]
      cases declared : options.xPathNamespaces with
      | none => exact Assoc.ascending_nil
      | some namespaces => exact wellFormed.ascending namespaces declared
  | dateTime comparison expected => exact Pattern.built_of_dateTime wellFormed compiled
  | binaryEqualTo encoded =>
      rw [compileOperator, binary] at compiled
      split at compiled
      · cases compiled
        exact .binaryEqualTo _
      · cases compiled
  | matchesJsonSchema document =>
      obtain ⟨schema, given, same⟩ := bind_eq_ok.mp compiled
      cases same
      have kept := JsonSchema.document_of_ofJson given
      exact .matchesJsonSchema (by rw [kept, given]) (by rw [kept]; exact sound.1)
        (by rw [kept]; exact sound.2)
  | and definitions =>
      cases definitions with
      | nil => cases compiled
      | cons definition definitions =>
          obtain ⟨patterns, given, same⟩ := bind_eq_ok.mp compiled
          cases same
          exact .and (ne_nil_of_compileEach given)
            (built_of_compileEach sound given (Pattern.hasPlainOperands_of_mem plain))
  | or definitions =>
      cases definitions with
      | nil => cases compiled
      | cons definition definitions =>
          obtain ⟨patterns, given, same⟩ := bind_eq_ok.mp compiled
          cases same
          exact .or (ne_nil_of_compileEach given)
            (built_of_compileEach sound given (Pattern.hasPlainOperands_of_mem plain))
  | not definition =>
      obtain ⟨inner, given, same⟩ := bind_eq_ok.mp compiled
      cases same
      exact .not (sound inner (within_eq_ok.mp given) plain)

def YieldsSound (reader : OperandReader) : Prop :=
  ∀ document operators, document ≠ .null → reader document = some operators →
    ∀ operator ∈ operators, operator.Sound

private theorem yieldsSound_map {α : Type} {read : Json → Option α}
    {operator : α → OperatorDefinition}
    (sound : ∀ document operand, document ≠ .null → read document = some operand →
      (operator operand).Sound) :
    YieldsSound fun document => (read document).map fun operand => [operator operand] := by
  intro document operators notNull given
  obtain ⟨operand, back, rfl⟩ := Option.map_eq_some_iff.mp given
  rw [List.forall_mem_singleton]
  exact sound document operand notNull back

private theorem yieldsSound_absence : YieldsSound absenceOperand := by
  intro document operators notNull given operator member
  obtain ⟨absent, -, rfl⟩ := Option.map_eq_some_iff.mp given
  cases absent with
  | false => cases member
  | true =>
      rw [List.mem_singleton.mp member]
      trivial

variable {fuel : Nat}

private theorem yieldsSound_of_mem
    (inner : ∀ document definition, read fuel document = some definition → definition.Sound)
    (innerExpression : ∀ document expression definition,
      readExpression fuel document = some (expression, some definition) → definition.Sound) :
    ∀ entry ∈ operandReaders fuel, YieldsSound entry.2 := by
  have text {operator : String → OperatorDefinition}
      (sound : ∀ text, (operator text).Sound = True) : YieldsSound (textOperand operator) :=
    yieldsSound_map fun _ text _ _ => (sound text).symm ▸ trivial
  have expression {operator : String → Option PatternDefinition → OperatorDefinition}
      (sound : ∀ text value, (∀ definition ∈ value, definition.Sound) →
        (operator text value).Sound) : YieldsSound (expressionOperand fuel operator) := by
    refine yieldsSound_map fun document operand _ back => sound operand.1 operand.2 ?_
    intro definition given
    exact innerExpression document operand.1 definition (by rw [back, ← given])
  have list {operator : List PatternDefinition → OperatorDefinition}
      (sound : ∀ definitions, (∀ definition ∈ definitions, definition.Sound) →
        (operator definitions).Sound) : YieldsSound (listOperand fuel operator) := by
    refine yieldsSound_map fun document definitions _ back => sound definitions ?_
    intro definition member
    obtain ⟨source, given⟩ := Json.exists_of_listOf? back definition member
    exact inner source definition given
  have document {operator : Json → OperatorDefinition}
      (sound : ∀ document : Json, document.IsCanonical ∧ document ≠ .null →
        (operator document).Sound) : YieldsSound (documentOperand operator) := by
    intro document operators notNull given
    cases given
    rw [List.forall_mem_singleton]
    exact sound document.canonical ⟨Json.isCanonical_canonical document,
      fun null => notNull (Json.canonical_eq_null_iff.mp null)⟩
  have negation : YieldsSound (negationOperand fuel) :=
    yieldsSound_map fun document definition _ back => inner document definition back
  simp only [operandReaders, List.forall_mem_cons]
  refine ⟨text fun _ => rfl, text fun _ => rfl, text fun _ => rfl, text fun _ => rfl,
    text fun _ => rfl, yieldsSound_absence, document fun _ given => given.1,
    expression fun _ _ each => each, expression fun _ _ each => each, text fun _ => rfl,
    text fun _ => rfl, text fun _ => rfl, text fun _ => rfl, document fun _ given => given,
    list fun _ each => each, list fun _ each => each, negation, ?_⟩
  exact fun _ absent => absurd absent List.not_mem_nil

private theorem exists_of_readOperator {record : Record} {entry : String × OperandReader}
    {operators : List OperatorDefinition} {operator : OperatorDefinition}
    (given : readOperator record entry = some operators) (member : operator ∈ operators) :
    ∃ document, document ≠ .null ∧ entry.2 document = some operators := by
  obtain ⟨operand, back, same⟩ := Option.map_eq_some_iff.mp given
  cases operand with
  | none =>
      cases same
      cases member
  | some found =>
      cases same
      exact Record.of_optional back

private theorem sound_of_operators {operators : List OperatorDefinition} {options : PatternOptions}
    (wellFormed : options.WellFormed) (sound : ∀ operator ∈ operators, operator.Sound) :
    (mk operators options).Sound := by
  intro pattern compiled plain
  rcases operators with _ | ⟨operator, _ | ⟨second, rest⟩⟩
  · cases compiled
  · rw [compile] at compiled
    exact built_of_compileOperator wellFormed (sound operator List.mem_cons_self) compiled plain
  · cases compiled

private theorem parts_of_readFields {record : Record} {operators : List OperatorDefinition}
    {options : PatternOptions}
    (inner : ∀ document definition, read fuel document = some definition → definition.Sound)
    (innerExpression : ∀ document expression definition,
      readExpression fuel document = some (expression, some definition) → definition.Sound)
    (given : readFields fuel record = some (.mk operators options)) :
    options.WellFormed ∧ ∀ operator ∈ operators, operator.Sound := by
  rw [readFields_eq] at given
  simp only [Option.bind_eq_bind, Option.bind_eq_some_iff] at given
  obtain ⟨operators, operatorsRead, options, optionsRead, same⟩ := given
  cases same
  refine ⟨wellFormed_of_readOptions optionsRead, fun operator member => ?_⟩
  obtain ⟨found, listed, member⟩ := List.mem_flatten.mp member
  obtain ⟨entry, known, read⟩ := Json.exists_of_mapM operatorsRead found listed
  obtain ⟨document, notNull, back⟩ := exists_of_readOperator read member
  exact yieldsSound_of_mem inner innerExpression entry known document found notNull back operator
    member

private theorem sound_of_readFields {record : Record} {definition : PatternDefinition}
    (inner : ∀ document definition, read fuel document = some definition → definition.Sound)
    (innerExpression : ∀ document expression definition,
      readExpression fuel document = some (expression, some definition) → definition.Sound)
    (given : readFields fuel record = some definition) : definition.Sound := by
  obtain ⟨operators, options⟩ := definition
  obtain ⟨wellFormed, sound⟩ := parts_of_readFields inner innerExpression given
  exact sound_of_operators wellFormed sound

private theorem readFields_of_read {document : Json} {definition : PatternDefinition}
    (given : read fuel document = some definition) :
    ∃ smaller record, fuel = smaller + 1 ∧ readFields smaller record = some definition := by
  cases fuel with
  | zero => simp [read] at given
  | succ fuel =>
      rw [read] at given
      obtain ⟨record, -, fields⟩ := Option.bind_eq_some_iff.mp given
      exact ⟨fuel, record, rfl, fields⟩

private theorem readFields_of_readExpression {document : Json} {expression : String}
    {definition : PatternDefinition}
    (given : readExpression fuel document = some (expression, some definition)) :
    ∃ smaller record, fuel = smaller + 1 ∧ readFields smaller record = some definition := by
  unfold readExpression at given
  split at given
  · cases given
  · cases given
  · simp only [Option.bind_eq_bind, Option.bind_eq_some_iff, pure, Option.some.injEq,
      Prod.mk.injEq] at given
    obtain ⟨record, -, _, -, _, fields, -, rfl⟩ := given
    exact ⟨_, record, rfl, fields⟩

private theorem sound_of_readFields_any {record : Record} {definition : PatternDefinition}
    (given : readFields fuel record = some definition) : definition.Sound := by
  induction fuel using Nat.strongRecOn generalizing record definition with
  | ind fuel induction =>
      -- What stands inside a record is read with less fuel, as a pattern or as an expression.
      refine sound_of_readFields ?_ ?_ given
      · intro document inner read
        obtain ⟨smaller, record, same, fields⟩ := readFields_of_read read
        exact induction smaller (by omega) fields
      · intro document expression inner read
        obtain ⟨smaller, record, same, fields⟩ := readFields_of_readExpression read
        exact induction smaller (by omega) fields

private theorem sound_of_read {document : Json} {definition : PatternDefinition}
    (given : read fuel document = some definition) : definition.Sound := by
  obtain ⟨smaller, record, -, fields⟩ := readFields_of_read given
  exact sound_of_readFields_any fields

private theorem sound_of_readExpression {document : Json} {expression : String}
    {definition : PatternDefinition}
    (given : readExpression fuel document = some (expression, some definition)) :
    definition.Sound := by
  obtain ⟨smaller, record, -, fields⟩ := readFields_of_readExpression given
  exact sound_of_readFields_any fields

theorem operators_sound_of_ofJson {document : Json} {operators : List OperatorDefinition}
    {options : PatternOptions} (given : ofJson document = some (.mk operators options)) :
    ∀ operator ∈ operators, operator.Sound := by
  obtain ⟨smaller, record, -, fields⟩ := readFields_of_read given
  exact (parts_of_readFields (fun _ _ => sound_of_read) (fun _ _ _ => sound_of_readExpression)
    fields).2

theorem sound_of_ofJson {document : Json} {definition : PatternDefinition}
    (given : ofJson document = some definition) : definition.Sound :=
  sound_of_read given

end PatternDefinition

end ServiceStub
