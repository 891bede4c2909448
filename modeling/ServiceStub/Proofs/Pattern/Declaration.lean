import ServiceStub.Proofs.Outcome
import ServiceStub.Proofs.Pattern.Operators
import ServiceStub.Proofs.Text.Base64

/-!
Patterns that documents declare.  A pattern that was built from a document is declared by its own
definition: the definition is read back from the document it is written as, and builds the pattern
again.
-/

namespace ServiceStub

/-- A document that stands for itself as an operand: a text would be read as a document, and null
would declare nothing. -/
def Json.isPlain : Json → Bool
  | .null => false
  | .string _ => false
  | _ => true

/-- The expected moment is what its text says, and the offset is a word. -/
structure DateTimePattern.Built (pattern : DateTimePattern) : Prop where
  moment : ExpectedMoment.ofText? pattern.expectedFormat pattern.text = some pattern.expected
  word : ∀ offset ∈ pattern.offset, offset.1 < 0x8000000000000000

namespace Pattern

mutual

def jsonOperands : Pattern → List Json
  | .equalToJson equality => [equality.expected]
  | .matchesJsonPath _ value => jsonOperandsOfValue value
  | .matchesXPath _ value => jsonOperandsOfValue value
  | .and patterns => jsonOperandsOfAll patterns
  | .or patterns => jsonOperandsOfAll patterns
  | .not pattern => jsonOperands pattern
  | _ => []

def jsonOperandsOfAll : List Pattern → List Json
  | [] => []
  | pattern :: patterns => jsonOperands pattern ++ jsonOperandsOfAll patterns

def jsonOperandsOfValue : Option Pattern → List Json
  | none => []
  | some pattern => jsonOperands pattern

end

/-- A pattern that a document may declare: what it has built is what its texts and documents are
built into. -/
inductive Built : Pattern → Prop
  | equalTo (expected : String) (caseInsensitive : Bool) :
      Built (.equalTo expected caseInsensitive)
  | contains (expected : String) : Built (.contains expected)
  | doesNotContain (expected : String) : Built (.doesNotContain expected)
  | matchesRegex {expression : WholeRegex}
      (compiled : WholeRegex.ofString expression.source = .ok expression) :
      Built (.matchesRegex expression)
  | doesNotMatch {expression : WholeRegex}
      (compiled : WholeRegex.ofString expression.source = .ok expression) :
      Built (.doesNotMatch expression)
  | absent : Built .absent
  | equalToJson {equality : JsonEquality} (canonical : equality.expected.IsCanonical)
      (plain : equality.expected.isPlain) : Built (.equalToJson equality)
  | matchesJsonPath {selector : JsonSelector} {value : Option Pattern}
      (compiled : JsonSelector.ofString selector.expression = .ok selector)
      (inner : ∀ pattern ∈ value, Built pattern) : Built (.matchesJsonPath selector value)
  | matchesXPath {selector : XmlSelector} {value : Option Pattern}
      (compiled : XmlSelector.ofString selector.expression selector.namespaces = .ok selector)
      (ascending : Assoc.Ascending selector.namespaces)
      (inner : ∀ pattern ∈ value, Built pattern) : Built (.matchesXPath selector value)
  | dateTime {pattern : DateTimePattern} (compiled : pattern.Built) : Built (.dateTime pattern)
  | binaryEqualTo (expected : Bytes) : Built (.binaryEqualTo expected)
  | matchesJsonSchema {schema : JsonSchema}
      (compiled : JsonSchema.ofJson schema.document = .ok schema)
      (canonical : schema.document.IsCanonical) (notNull : schema.document ≠ .null) :
      Built (.matchesJsonSchema schema)
  | and {patterns : List Pattern} (filled : patterns ≠ [])
      (each : ∀ pattern ∈ patterns, Built pattern) : Built (.and patterns)
  | or {patterns : List Pattern} (filled : patterns ≠ [])
      (each : ∀ pattern ∈ patterns, Built pattern) : Built (.or patterns)
  | not {pattern : Pattern} (inner : Built pattern) : Built (.not pattern)

@[simp] theorem definitions_eq (patterns : List Pattern) :
    definitions patterns = patterns.map definition := by
  induction patterns with
  | nil => rfl
  | cons pattern rest induction => rw [definitions, induction, List.map_cons]

@[simp] theorem valueDefinition_eq (value : Option Pattern) :
    valueDefinition value = value.map definition := by
  cases value <;> rfl

@[simp] theorem flagOption_getD (flag : Bool) : (flagOption flag).getD false = flag := by
  cases flag <;> rfl

theorem compileEach_definitions {patterns : List Pattern} (field : String) (index : Nat)
    (each : ∀ pattern ∈ patterns, pattern.definition.compile = .ok pattern) :
    PatternDefinition.compileEach field index (patterns.map definition) = .ok patterns := by
  induction patterns generalizing index with
  | nil => rfl
  | cons pattern rest induction =>
      obtain ⟨first, others⟩ := List.forall_mem_cons.mp each
      rw [List.map_cons, PatternDefinition.compileEach, first, induction (index + 1) others]
      rfl

private theorem compileValue_definition {value : Option Pattern}
    (each : ∀ pattern ∈ value, pattern.definition.compile = .ok pattern) :
    PatternDefinition.compileValue (value.map definition) = .ok value := by
  cases value with
  | none => rfl
  | some pattern =>
      have compiled := each pattern rfl
      rw [Option.map_some, PatternDefinition.compileValue, compiled]
      · rfl
      · intro options empty
        rw [empty] at compiled
        simp [PatternDefinition.compile, PatternDefinition.fail] at compiled

theorem ofText?_name (unit : Calendar.TimeUnit) :
    Calendar.TimeUnit.ofText? unit.name = some unit := by
  cases unit <;> decide +kernel

private theorem truncationNamed_name (truncation : Calendar.Truncation) :
    DateTimePattern.truncationNamed truncation.name = .ok truncation := by
  cases truncation <;> decide +kernel

private theorem withOffset_name (pattern : DateTimePattern) (amount : Int)
    (unit : Calendar.TimeUnit) :
    pattern.withOffset amount unit.name = .ok { pattern with offset := some (amount, unit) } := by
  have known := ofText?_name unit
  unfold DateTimePattern.withOffset
  generalize Calendar.TimeUnit.ofText? unit.name = found at known
  cases known
  rfl

private theorem truncatingExpected_name (pattern : DateTimePattern)
    (truncation : Calendar.Truncation) :
    pattern.truncatingExpected truncation.name =
      .ok { pattern with truncateExpected := some truncation } := by
  rw [DateTimePattern.truncatingExpected, truncationNamed_name]
  rfl

private theorem truncatingActual_name (pattern : DateTimePattern)
    (truncation : Calendar.Truncation) :
    pattern.truncatingActual truncation.name =
      .ok { pattern with truncateActual := some truncation } := by
  rw [DateTimePattern.truncatingActual, truncationNamed_name]
  rfl

private theorem compile_dateTimeDefinition {pattern : DateTimePattern} (built : pattern.Built) :
    (dateTimeDefinition pattern).compile = .ok (.dateTime pattern) := by
  have compiled := built.moment
  rcases pattern with ⟨comparison, text, expected, format, actualFormat, offset,
    truncateExpected, truncateActual⟩
  -- The options are applied one after the other to a pattern that has none.
  have moment : DateTimePattern.ofText comparison text format =
      .ok ⟨comparison, text, expected, format, none, none, none, none⟩ := by
    rw [DateTimePattern.ofText, compiled]
  have shifted : PatternDefinition.applying (offset.map Prod.fst)
      (fun (pattern : DateTimePattern) amount => pattern.withOffset amount
        ((offset.map fun offset => offset.2.name).getD "days"))
      ⟨comparison, text, expected, format, none, none, none, none⟩ =
      .ok ⟨comparison, text, expected, format, none, offset, none, none⟩ := by
    cases offset with
    | none => rfl
    | some offset => rw [Option.map_some, Option.map_some, Option.getD_some,
        PatternDefinition.applying, withOffset_name]
  have truncated : PatternDefinition.applying (truncateExpected.map Calendar.Truncation.name)
      DateTimePattern.truncatingExpected
      ⟨comparison, text, expected, format, none, offset, none, none⟩ =
      .ok ⟨comparison, text, expected, format, none, offset, truncateExpected, none⟩ := by
    cases truncateExpected with
    | none => rfl
    | some truncation => exact truncatingExpected_name _ truncation
  have truncatedActual : PatternDefinition.applying (truncateActual.map Calendar.Truncation.name)
      DateTimePattern.truncatingActual
      ⟨comparison, text, expected, format, none, offset, truncateExpected, none⟩ =
      .ok ⟨comparison, text, expected, format, none, offset, truncateExpected, truncateActual⟩ := by
    cases truncateActual with
    | none => rfl
    | some truncation => exact truncatingActual_name _ truncation
  rw [dateTimeDefinition, PatternDefinition.compile, PatternDefinition.compileOperator,
    PatternDefinition.dateTime, moment, ok_bind]
  dsimp only
  rw [shifted, ok_bind, truncated, ok_bind, truncatedActual, ok_bind]
  rfl

theorem jsonEquality_of_isPlain {options : PatternOptions} {expected : Json}
    (plain : expected.isPlain) :
    PatternDefinition.jsonEquality options expected = .ok (.equalToJson {
      expected
      ignoreArrayOrder := options.ignoreArrayOrder.getD false
      ignoreExtraElements := options.ignoreExtraElements.getD false }) := by
  cases expected with
  | string text => cases plain
  | _ => rfl

private theorem declaredNamespaces_getD (namespaces : List (String × String)) :
    (if namespaces.isEmpty then none else some namespaces).getD [] = namespaces := by
  cases namespaces <;> rfl

theorem Built.compile_definition {pattern : Pattern} (built : Built pattern) :
    pattern.definition.compile = .ok pattern := by
  induction built with
  | equalTo expected caseInsensitive =>
      rw [definition, PatternDefinition.compile, PatternDefinition.compileOperator,
        flagOption_getD]
  | contains expected => rfl
  | doesNotContain expected => rfl
  | matchesRegex compiled =>
      rw [definition, PatternDefinition.compile, PatternDefinition.compileOperator, compiled]
      rfl
  | doesNotMatch compiled =>
      rw [definition, PatternDefinition.compile, PatternDefinition.compileOperator, compiled]
      rfl
  | absent => rfl
  | equalToJson canonical plain =>
      rw [definition, PatternDefinition.compile, PatternDefinition.compileOperator,
        jsonEquality_of_isPlain plain, flagOption_getD, flagOption_getD]
  | matchesJsonPath compiled inner induction =>
      rw [definition, PatternDefinition.compile, PatternDefinition.compileOperator,
        valueDefinition_eq, compileValue_definition induction, compiled]
      rfl
  | matchesXPath compiled ascending inner induction =>
      rw [definition, PatternDefinition.compile, PatternDefinition.compileOperator,
        valueDefinition_eq, compileValue_definition induction, declaredNamespaces_getD]
      dsimp only
      rw [compiled]
      rfl
  | dateTime compiled => rw [definition, compile_dateTimeDefinition compiled]
  | binaryEqualTo expected =>
      rw [definition, PatternDefinition.compile, PatternDefinition.compileOperator,
        PatternDefinition.binary, Text.Base64.decode?_encode]
  | matchesJsonSchema compiled canonical notNull =>
      rw [definition, PatternDefinition.compile, PatternDefinition.compileOperator, compiled]
      rfl
  | and filled each induction =>
      rw [definition, PatternDefinition.compile, definitions_eq,
        PatternDefinition.compileOperator, compileEach_definitions "and" 0 induction]
      · rfl
      · exact fun empty => filled (List.map_eq_nil_iff.mp empty)
  | or filled each induction =>
      rw [definition, PatternDefinition.compile, definitions_eq,
        PatternDefinition.compileOperator, compileEach_definitions "or" 0 induction]
      · rfl
      · exact fun empty => filled (List.map_eq_nil_iff.mp empty)
  | not inner induction =>
      rw [definition, PatternDefinition.compile, PatternDefinition.compileOperator, induction]
      rfl

private theorem exists_definition_eq (pattern : Pattern) :
    ∃ operator options, pattern.definition = .mk [operator] options := by
  cases pattern <;> exact ⟨_, _, rfl⟩

theorem Built.readable {pattern : Pattern} {operator : OperatorDefinition}
    {options : PatternOptions} (built : Built pattern)
    (same : pattern.definition = .mk [operator] options) : options.Readable := by
  cases built with
  | matchesXPath compiled ascending inner =>
      cases same
      refine ⟨⟨fun namespaces given => ?_, nofun⟩, rfl⟩
      rw [Option.mem_ite_none_left] at given
      rwa [← Option.some.inj given.2]
  | dateTime compiled =>
      cases same
      refine ⟨⟨nofun, fun amount given => ?_⟩, rfl⟩
      obtain ⟨offset, declared, rfl⟩ := Option.map_eq_some_iff.mp given
      exact compiled.word offset declared
  | _ =>
      cases same
      exact ⟨⟨nofun, nofun⟩, rfl⟩

theorem Built.keys_nodup {pattern : Pattern} (built : Built pattern) :
    (Assoc.keys (Json.present pattern.definition.members)).Nodup := by
  obtain ⟨operator, options, same⟩ := exists_definition_eq pattern
  rw [same]
  exact PatternDefinition.keys_single_nodup (built.readable same)

open PatternDefinition (Declares read readFields readExpression)

/-- Reading a pattern from a record that declares it needs fuel for the documents inside it. -/
def ReadBack (pattern : Pattern) : Prop :=
  ∀ (fuel : Nat) (record : Record), Declares record pattern.definition →
    pattern.toJson.depth ≤ fuel + 1 → readFields fuel record = some pattern.definition

theorem ReadBack.read {pattern : Pattern} (back : ReadBack pattern) (built : Built pattern)
    {fuel : Nat} (deep : pattern.toJson.depth ≤ fuel) :
    read fuel pattern.toJson = some pattern.definition := by
  cases fuel with
  | zero => simp [toJson, PatternDefinition.toJson, Json.record, Json.depth] at deep
  | succ fuel =>
      obtain ⟨record, given, declares⟩ :=
        Record.ofJson_record PatternDefinition.fieldNames built.keys_nodup
      rw [PatternDefinition.read, toJson, PatternDefinition.toJson, given, Option.bind_some,
        back fuel record declares deep]

theorem not_mem_keys_of_undeclared {pattern : Pattern} {name : String}
    (undeclared : name ∉ PatternDefinition.fieldNames) :
    name ∉ Assoc.keys (Json.present pattern.definition.members) := by
  obtain ⟨operator, options, same⟩ := exists_definition_eq pattern
  intro listed
  have named := (Json.keys_present_sublist _).subset listed
  rw [same, PatternDefinition.members_single, List.map_cons, PatternDefinition.keys_members,
    List.mem_cons] at named
  apply undeclared
  rcases named with rfl | option
  · exact PatternDefinition.operatorNames_subset (PatternDefinition.name_mem_operatorNames operator)
  · exact PatternDefinition.optionNames_subset option

private theorem expression_undeclared : "expression" ∉ PatternDefinition.fieldNames := by
  decide

private theorem readExpression_definition {value : Option Pattern} {fuel : Nat}
    (expression : String)
    (built : ∀ pattern ∈ value, Built pattern) (back : ∀ pattern ∈ value, ReadBack pattern)
    (deep : (PatternDefinition.expressionJson expression (value.map definition)).depth ≤ fuel) :
    readExpression fuel (PatternDefinition.expressionJson expression (value.map definition)) =
      some (expression, value.map definition) := by
  cases value with
  | none => simp [PatternDefinition.expressionJson, readExpression]
  | some pattern =>
      have distinct : (Assoc.keys (Json.present (("expression", some (.string expression)) ::
          pattern.definition.members))).Nodup :=
        List.nodup_cons.mpr ⟨not_mem_keys_of_undeclared expression_undeclared,
          (built pattern rfl).keys_nodup⟩
      rw [Option.map_some, PatternDefinition.expressionJson] at deep ⊢
      have shallower := Nat.le_trans (Json.depth_record_le_cons distinct) deep
      obtain ⟨record, given, found⟩ :=
        Record.ofJson_record ("expression" :: PatternDefinition.fieldNames) distinct
      cases fuel with
      | zero => simp [Json.record, Json.depth] at deep
      | succ fuel =>
          have required : record.required "expression" Json.asString? = some expression :=
            Record.required_eq (found _ List.mem_cons_self) rfl
          have declares : Declares record pattern.definition := by
            intro field known
            have other : field ≠ "expression" := by
              rintro rfl
              exact expression_undeclared known
            rw [found field (List.mem_cons_of_mem _ known)]
            simp [Json.present, Assoc.find?, other]
          have members : Record.ofMembers ("expression" :: PatternDefinition.fieldNames)
              (Json.record (("expression", some (.string expression)) ::
                pattern.definition.members)) = some record := given
          rw [readExpression, members]
          · simp [required, back pattern rfl fuel record declares shallower]
          · intro text same
            cases same

private theorem listJson_eq (definitions : List PatternDefinition) :
    PatternDefinition.listJson definitions = definitions.map PatternDefinition.toJson := by
  induction definitions with
  | nil => rfl
  | cons definition rest induction =>
      rw [PatternDefinition.listJson, induction, List.map_cons, PatternDefinition.toJson]

private theorem listOf?_read {patterns : List Pattern} {fuel : Nat}
    (built : ∀ pattern ∈ patterns, Built pattern) (back : ∀ pattern ∈ patterns, ReadBack pattern)
    (deep : (Json.array (PatternDefinition.listJson (patterns.map definition))).depth ≤ fuel) :
    Json.listOf? (read fuel) (.array (PatternDefinition.listJson (patterns.map definition))) =
      some (patterns.map definition) := by
  rw [listJson_eq] at deep ⊢
  refine Json.listOf?_map fun inner listed => ?_
  have shallower := Json.depth_lt_array (List.mem_map_of_mem (f := PatternDefinition.toJson) listed)
  obtain ⟨pattern, member, rfl⟩ := List.mem_map.mp listed
  exact (back pattern member).read (built pattern member)
    (Nat.le_of_lt (Nat.lt_of_lt_of_le shallower deep))

private theorem Built.readBack_of {pattern : Pattern} {operator : OperatorDefinition}
    {options : PatternOptions} (built : Built pattern)
    (same : pattern.definition = .mk [operator] options)
    (notNull : PatternDefinition.operandJson operator ≠ .null)
    (back : ∀ fuel, (PatternDefinition.operandJson operator).depth ≤ fuel →
      PatternDefinition.operandReader fuel operator (PatternDefinition.operandJson operator) =
        some [operator]) : ReadBack pattern := by
  intro fuel record declares deep
  have readable := built.readable same
  have member : (operator.name, PatternDefinition.operandJson operator) ∈
      Json.present (PatternDefinition.mk [operator] options).members := by
    rw [PatternDefinition.members_single]
    exact Json.mem_present.mpr List.mem_cons_self
  rw [toJson, PatternDefinition.toJson, same] at deep
  have shallower := Nat.lt_of_lt_of_le
    (Json.depth_lt_record (PatternDefinition.keys_single_nodup readable) member) deep
  rw [same] at declares ⊢
  exact declares.readFields_eq readable notNull (back fuel (Nat.le_of_lt_succ shallower))

theorem documentOperand_eq {document : Json} {operator : Json → OperatorDefinition}
    (canonical : document.IsCanonical) :
    PatternDefinition.documentOperand operator document = some [operator document] := by
  rw [PatternDefinition.documentOperand, canonical]

private theorem expressionJson_ne_null (expression : String) (value : Option PatternDefinition) :
    PatternDefinition.expressionJson expression value ≠ .null := by
  cases value <;> exact nofun

private theorem expressionOperand_eq {value : Option Pattern} {fuel : Nat} {expression : String}
    {operator : String → Option PatternDefinition → OperatorDefinition}
    (built : ∀ pattern ∈ value, Built pattern) (back : ∀ pattern ∈ value, ReadBack pattern)
    (deep : (PatternDefinition.expressionJson expression (valueDefinition value)).depth ≤ fuel) :
    PatternDefinition.expressionOperand fuel operator
        (PatternDefinition.expressionJson expression (valueDefinition value)) =
      some [operator expression (valueDefinition value)] := by
  rw [valueDefinition_eq] at deep ⊢
  rw [PatternDefinition.expressionOperand, readExpression_definition expression built back deep,
    Option.map_some]

private theorem listOperand_eq {patterns : List Pattern} {fuel : Nat}
    {operator : List PatternDefinition → OperatorDefinition}
    (built : ∀ pattern ∈ patterns, Built pattern) (back : ∀ pattern ∈ patterns, ReadBack pattern)
    (deep : (Json.array (PatternDefinition.listJson (definitions patterns))).depth ≤ fuel) :
    PatternDefinition.listOperand fuel operator
        (.array (PatternDefinition.listJson (definitions patterns))) =
      some [operator (definitions patterns)] := by
  rw [definitions_eq] at deep ⊢
  rw [PatternDefinition.listOperand, listOf?_read built back deep, Option.map_some]

private theorem Built.readBack {pattern : Pattern} (built : Built pattern) : ReadBack pattern := by
  induction built with
  | equalTo expected caseInsensitive =>
      exact (Built.equalTo expected caseInsensitive).readBack_of rfl nofun fun _ _ => rfl
  | contains expected => exact (Built.contains expected).readBack_of rfl nofun fun _ _ => rfl
  | doesNotContain expected =>
      exact (Built.doesNotContain expected).readBack_of rfl nofun fun _ _ => rfl
  | matchesRegex compiled =>
      exact (Built.matchesRegex compiled).readBack_of rfl nofun fun _ _ => rfl
  | doesNotMatch compiled =>
      exact (Built.doesNotMatch compiled).readBack_of rfl nofun fun _ _ => rfl
  | absent => exact Built.absent.readBack_of rfl nofun fun _ _ => rfl
  | @equalToJson equality canonical plain =>
      have notNull : equality.expected ≠ .null := by
        intro null
        rw [null] at plain
        cases plain
      exact (Built.equalToJson canonical plain).readBack_of rfl notNull
        fun _ _ => documentOperand_eq canonical
  | matchesJsonPath compiled inner back =>
      exact (Built.matchesJsonPath compiled inner).readBack_of rfl (expressionJson_ne_null _ _)
        fun _ deep => expressionOperand_eq inner back deep
  | matchesXPath compiled ascending inner back =>
      exact (Built.matchesXPath compiled ascending inner).readBack_of rfl
        (expressionJson_ne_null _ _) fun _ deep => expressionOperand_eq inner back deep
  | dateTime compiled =>
      exact (Built.dateTime compiled).readBack_of rfl nofun fun _ _ => rfl
  | binaryEqualTo expected =>
      exact (Built.binaryEqualTo expected).readBack_of rfl nofun fun _ _ => rfl
  | matchesJsonSchema compiled canonical notNull =>
      exact (Built.matchesJsonSchema compiled canonical notNull).readBack_of rfl notNull
        fun _ _ => documentOperand_eq canonical
  | and filled each back =>
      exact (Built.and filled each).readBack_of rfl nofun
        fun _ deep => listOperand_eq each back deep
  | or filled each back =>
      exact (Built.or filled each).readBack_of rfl nofun
        fun _ deep => listOperand_eq each back deep
  | not inner back =>
      refine (Built.not inner).readBack_of rfl nofun fun fuel deep => ?_
      exact congrArg (Option.map fun definition => [OperatorDefinition.not definition])
        (back.read inner deep)

theorem Built.ofJson_toJson {pattern : Pattern} (built : Built pattern) :
    PatternDefinition.ofJson pattern.toJson = some pattern.definition :=
  built.readBack.read built (by omega)

end Pattern

end ServiceStub
