import ServiceStub.Pattern.Definition
import ServiceStub.Proofs.Json.Record

/-!
The definition of a pattern is read operator by operator: each one has a name of its own and a
reader for its operand.  A record with one operator and options is read as just these.
-/

namespace ServiceStub

namespace PatternDefinition

abbrev OperandReader : Type := Json → Option (List OperatorDefinition)

def textOperand (operator : String → OperatorDefinition) : OperandReader := fun document =>
  document.asString?.map fun text => [operator text]

def documentOperand (operator : Json → OperatorDefinition) : OperandReader := fun document =>
  some [operator document.canonical]

def absenceOperand : OperandReader := fun document =>
  document.asBool?.map fun absent => if absent then [.absent] else []

variable (fuel : Nat)

def expressionOperand (operator : String → Option PatternDefinition → OperatorDefinition) :
    OperandReader := fun document =>
  (readExpression fuel document).map fun operand => [operator operand.1 operand.2]

def listOperand (operator : List PatternDefinition → OperatorDefinition) : OperandReader :=
  fun document => (Json.listOf? (read fuel) document).map fun definitions => [operator definitions]

def negationOperand : OperandReader := fun document =>
  (read fuel document).map fun definition => [.not definition]

def operandReaders : List (String × OperandReader) :=
  [("equalTo", textOperand .equalTo), ("contains", textOperand .contains),
    ("doesNotContain", textOperand .doesNotContain), ("matches", textOperand .matchesRegex),
    ("doesNotMatch", textOperand .doesNotMatch), ("absent", absenceOperand),
    ("equalToJson", documentOperand .equalToJson),
    ("matchesJsonPath", expressionOperand fuel .matchesJsonPath),
    ("matchesXPath", expressionOperand fuel .matchesXPath),
    ("before", textOperand (.dateTime .before)), ("after", textOperand (.dateTime .after)),
    ("equalToDateTime", textOperand (.dateTime .equal)),
    ("binaryEqualTo", textOperand .binaryEqualTo),
    ("matchesJsonSchema", documentOperand .matchesJsonSchema), ("and", listOperand fuel .and),
    ("or", listOperand fuel .or), ("not", negationOperand fuel)]

def operatorNames : List String :=
  ["equalTo", "contains", "doesNotContain", "matches", "doesNotMatch", "absent", "equalToJson",
    "matchesJsonPath", "matchesXPath", "before", "after", "equalToDateTime", "binaryEqualTo",
    "matchesJsonSchema", "and", "or", "not"]

theorem keys_operandReaders : Assoc.keys (operandReaders fuel) = operatorNames := rfl

def readOperator (record : Record) (entry : String × OperandReader) :
    Option (List OperatorDefinition) :=
  (record.optional entry.1 entry.2).map fun operators => operators.getD []

variable {fuel} {record : Record}

theorem ofJson_eq {document : Json} (given : Record.ofJson fieldNames document = some record) :
    ofJson document = readFields (2 * document.depth + 1) record := by
  rw [ofJson, read, given, Option.bind_some]

private theorem map_optional {α : Type} {read : Json → Option α} {name : String}
    {operators : α → List OperatorDefinition} {found : Option α → List OperatorDefinition}
    (same : ∀ operand, found operand = (operand.map operators).getD []) :
    (record.optional name read).map found =
      readOperator record (name, fun document => (read document).map operators) := by
  simp only [readOperator, Record.optional]
  split
  · simp [same]
  · simp [same]
  · next document _ _ => cases read document <;> simp [same]

private theorem mapM_id_map {α β : Type} {step : α → Option β} (items : List α) :
    (items.map step).mapM id = items.mapM step := by
  rw [List.mapM_map]
  rfl

theorem readFields_eq : readFields fuel record = (do
    let operators ← (operandReaders fuel).mapM (readOperator record)
    return .mk operators.flatten (← readOptions record)) := by
  -- Each way of reading a field is that of an entry of the table.
  have text (name : String) (operator : String → OperatorDefinition) :
      ((record.optional name Json.asString?).map fun operand =>
        (operand.map operator).toList) = readOperator record (name, textOperand operator) :=
    map_optional (by rintro (_ | _) <;> rfl)
  have document (name : String) (operator : Json → OperatorDefinition) :
      ((record.optional name fun operand => some operand.canonical).map fun operand =>
        (operand.map operator).toList) = readOperator record (name, documentOperand operator) := by
    change _ = readOperator record
      (name, fun document => (some document.canonical).map fun operand => [operator operand])
    exact map_optional (by rintro (_ | _) <;> rfl)
  have expression (name : String)
      (operator : String → Option PatternDefinition → OperatorDefinition) :
      ((record.optional name (readExpression fuel)).map fun operand =>
        (operand.map fun operand => operator operand.1 operand.2).toList) =
        readOperator record (name, expressionOperand fuel operator) :=
    map_optional (by rintro (_ | _) <;> rfl)
  have list (name : String) (operator : List PatternDefinition → OperatorDefinition) :
      ((record.optional name (Json.listOf? (read fuel))).map fun operand =>
        (operand.map operator).toList) = readOperator record (name, listOperand fuel operator) :=
    map_optional (by rintro (_ | _) <;> rfl)
  have absence : ((record.optional "absent" Json.asBool?).map fun operand =>
      if operand == some true then [OperatorDefinition.absent] else []) =
        readOperator record ("absent", absenceOperand) :=
    map_optional (by rintro (_ | _ | _) <;> rfl)
  have negation : ((record.optional "not" (read fuel)).map fun operand =>
      (operand.map OperatorDefinition.not).toList) =
        readOperator record ("not", negationOperand fuel) :=
    map_optional (by rintro (_ | _) <;> rfl)
  rw [readFields, ← mapM_id_map (operandReaders fuel)]
  simp only [text, document, expression, list, absence, negation]
  rfl

theorem mapM_readOperator_of_none {readers : List (String × OperandReader)}
    (missing : ∀ name ∈ Assoc.keys readers,
      record.get? name = none ∨ record.get? name = some .null) :
    ∃ operators, readers.mapM (readOperator record) = some operators ∧
      operators.flatten = [] := by
  induction readers with
  | nil => exact ⟨[], rfl, rfl⟩
  | cons entry rest induction =>
      obtain ⟨first, others⟩ := List.forall_mem_cons.mp missing
      obtain ⟨operators, read, empty⟩ := induction others
      have skipped : readOperator record entry = some [] := by
        rcases first with first | first <;> simp [readOperator, Record.optional, first]
      refine ⟨[] :: operators, ?_, by rw [List.flatten_cons, List.nil_append, empty]⟩
      simp [List.mapM_cons, skipped, read]

private theorem mapM_readOperator {readers : List (String × OperandReader)} {name : String}
    {reader : OperandReader} {operand : Json} {operator : OperatorDefinition}
    (distinct : (Assoc.keys readers).Nodup) (member : (name, reader) ∈ readers)
    (found : record.get? name = some operand) (notNull : operand ≠ .null)
    (back : reader operand = some [operator])
    (missing : ∀ other ∈ Assoc.keys readers, other ≠ name → record.get? other = none) :
    ∃ operators, readers.mapM (readOperator record) = some operators ∧
      operators.flatten = [operator] := by
  induction readers with
  | nil => exact absurd member List.not_mem_nil
  | cons entry rest induction =>
      obtain ⟨fresh, distinctRest⟩ := List.nodup_cons.mp distinct
      obtain ⟨first, others⟩ := List.forall_mem_cons.mp missing
      rcases List.mem_cons.mp member with rfl | later
      · have read : readOperator record (name, reader) = some [operator] := by
          simp only [readOperator]
          rw [Record.optional_of_get? found notNull, back]
          rfl
        obtain ⟨operators, readRest, empty⟩ :=
          mapM_readOperator_of_none fun other listed =>
            .inl (others other listed fun same => fresh (same ▸ listed))
        refine ⟨[operator] :: operators, ?_, by rw [List.flatten_cons, empty, List.append_nil]⟩
        simp [List.mapM_cons, read, readRest]
      · have different : entry.1 ≠ name := by
          intro same
          exact fresh (same ▸ List.mem_map.mpr ⟨(name, reader), later, rfl⟩)
        obtain ⟨operators, readRest, single⟩ := induction distinctRest later others
        have skipped : readOperator record entry = some [] := by
          simp [readOperator, Record.optional, first different]
        refine ⟨[] :: operators, ?_, by rw [List.flatten_cons, List.nil_append, single]⟩
        simp [List.mapM_cons, skipped, readRest]

def optionNames : List String :=
  ["absent", "caseInsensitive", "ignoreArrayOrder", "ignoreExtraElements", "xPathNamespaces",
    "expectedFormat", "actualFormat", "expectedOffset", "expectedOffsetUnit",
    "truncateExpected", "truncateActual"]

theorem keys_members (options : PatternOptions) :
    options.members.map Prod.fst = optionNames := rfl

end PatternDefinition

/-- Options that a document may give: the namespaces are sorted, and the offset is a word. -/
structure PatternOptions.WellFormed (options : PatternOptions) : Prop where
  ascending : ∀ namespaces ∈ options.xPathNamespaces, Assoc.Ascending namespaces
  word : ∀ amount ∈ options.expectedOffset, amount < 0x8000000000000000

/-- Options that a pattern declares: that a value need not be absent is not among them. -/
structure PatternOptions.Readable (options : PatternOptions) : Prop extends
    PatternOptions.WellFormed options where
  notAbsent : options.notAbsent = false

namespace PatternDefinition

variable {options : PatternOptions}

theorem readOptions_eq (readable : options.Readable)
    (absent : record.get? "absent" = none ∨ record.get? "absent" = some (.bool true))
    (found : ∀ name value, (name, value) ∈ options.members.tail → record.get? name = value) :
    readOptions record = some options := by
  have flag (name : String) (value : Option Bool)
      (member : (name, value.map Json.bool) ∈ options.members.tail) :=
    Record.optional_flag (found name _ member)
  have text (name : String) (value : Option String)
      (member : (name, value.map Json.string) ∈ options.members.tail) :=
    Record.optional_text (found name _ member)
  have namespaces : record.optional "xPathNamespaces" (Json.tableOf? Json.asString?) =
      some options.xPathNamespaces := by
    refine Record.optional_eq (found _ _ (by simp [PatternOptions.members]; rfl)) ?_
    intro namespaces given
    exact ⟨nofun, Json.tableOf?_mapValues (readable.ascending _ given) fun _ _ => rfl⟩
  have offset : record.optional "expectedOffset" Json.asSignedWord? =
      some options.expectedOffset := by
    refine Record.optional_eq (found _ _ (by simp [PatternOptions.members]; rfl)) ?_
    intro amount given
    refine ⟨nofun, ?_⟩
    simp [Json.asSignedWord?, Json.asInt?, Json.ofInt, Option.filter, readable.word _ given]
  have absence : ∃ value, record.optional "absent" Json.asBool? = some value ∧
      (value == some false) = options.notAbsent := by
    rw [readable.notAbsent]
    rcases absent with missing | given
    · exact ⟨none, by rw [Record.optional, missing], rfl⟩
    · exact ⟨some true, by rw [Record.optional, given]; rfl, rfl⟩
  obtain ⟨value, absence, same⟩ := absence
  rw [readOptions, absence, flag "caseInsensitive" options.caseInsensitive,
    flag "ignoreArrayOrder" options.ignoreArrayOrder,
    flag "ignoreExtraElements" options.ignoreExtraElements, namespaces,
    text "expectedFormat" options.expectedFormat, text "actualFormat" options.actualFormat,
    offset, text "expectedOffsetUnit" options.expectedOffsetUnit,
    text "truncateExpected" options.truncateExpected,
    text "truncateActual" options.truncateActual]
  · simp [same]
  all_goals simp [PatternOptions.members]

private theorem absent_or_not_mem_optionNames :
    ∀ name ∈ operatorNames, name = "absent" ∨ name ∉ optionNames := by
  decide

private theorem not_mem_tail_optionNames : ∀ name ∈ operatorNames, name ∉ optionNames.tail := by
  decide

theorem operatorNames_subset : operatorNames ⊆ fieldNames := by
  decide

theorem optionNames_subset : optionNames ⊆ fieldNames := by
  decide

private theorem keys_optionMembers_nodup (options : PatternOptions) :
    (options.members.map Prod.fst).Nodup := by
  rw [keys_members]
  decide

theorem name_mem_operatorNames (operator : OperatorDefinition) :
    operator.name ∈ operatorNames := by
  cases operator with
  | dateTime comparison expected =>
      cases comparison <;>
        simp [OperatorDefinition.name, DateTimeComparison.operator, operatorNames]
  | _ => simp [OperatorDefinition.name, operatorNames]

private theorem operandJson_of_absent {operator : OperatorDefinition}
    (same : operator.name = "absent") :
    operandJson operator = .bool true := by
  cases operator with
  | absent => rfl
  | dateTime comparison expected =>
      cases comparison <;> simp [OperatorDefinition.name, DateTimeComparison.operator] at same
  | _ => simp [OperatorDefinition.name] at same

theorem members_single (operator : OperatorDefinition) (options : PatternOptions) :
    (mk [operator] options).members =
      (operator.name, some (operandJson operator)) :: options.members := by
  rw [members, operatorMembers, operatorMembers, List.cons_append, List.nil_append]

def operandReader (fuel : Nat) : OperatorDefinition → OperandReader
  | .equalTo _ => textOperand .equalTo
  | .contains _ => textOperand .contains
  | .doesNotContain _ => textOperand .doesNotContain
  | .matchesRegex _ => textOperand .matchesRegex
  | .doesNotMatch _ => textOperand .doesNotMatch
  | .absent => absenceOperand
  | .equalToJson _ => documentOperand .equalToJson
  | .matchesJsonPath _ _ => expressionOperand fuel .matchesJsonPath
  | .matchesXPath _ _ => expressionOperand fuel .matchesXPath
  | .dateTime comparison _ => textOperand (.dateTime comparison)
  | .binaryEqualTo _ => textOperand .binaryEqualTo
  | .matchesJsonSchema _ => documentOperand .matchesJsonSchema
  | .and _ => listOperand fuel .and
  | .or _ => listOperand fuel .or
  | .not _ => negationOperand fuel

private theorem operandReader_mem (operator : OperatorDefinition) :
    (operator.name, operandReader fuel operator) ∈ operandReaders fuel := by
  cases operator with
  | dateTime comparison expected =>
      cases comparison <;>
        simp [OperatorDefinition.name, DateTimeComparison.operator, operandReader, operandReaders]
  | _ => simp [OperatorDefinition.name, operandReader, operandReaders]

variable {operator : OperatorDefinition}

private theorem find?_options_of_operator (readable : options.Readable) {name : String}
    (known : name ∈ operatorNames) : Assoc.find? name (Json.present options.members) = none := by
  rcases absent_or_not_mem_optionNames name known with rfl | undeclared
  · refine Json.find?_present (keys_optionMembers_nodup options) ?_
    rw [PatternOptions.members, readable.notAbsent]
    exact List.mem_cons_self
  · exact Json.find?_present_eq_none (by rwa [keys_members])

theorem keys_single_nodup (readable : options.Readable) :
    (Assoc.keys (Json.present (mk [operator] options).members)).Nodup := by
  rw [members_single]
  refine List.nodup_cons.mpr ⟨Assoc.find?_eq_none_iff.mp
    (find?_options_of_operator readable (name_mem_operatorNames operator)), ?_⟩
  exact (keys_optionMembers_nodup options).sublist (Json.keys_present_sublist options.members)

/-- A record gives the fields of a definition; it may give others, which are no fields of one. -/
def Declares (record : Record) (definition : PatternDefinition) : Prop :=
  ∀ field ∈ fieldNames, record.get? field = Assoc.find? field (Json.present definition.members)

namespace Declares

variable (declares : Declares record (.mk [operator] options))
include declares

theorem operand : record.get? operator.name = some (operandJson operator) := by
  rw [declares operator.name (operatorNames_subset (name_mem_operatorNames operator)),
    members_single]
  simp [Json.present, Assoc.find?]

theorem elsewhere {field : String} (known : field ∈ fieldNames) (other : field ≠ operator.name) :
    record.get? field = Assoc.find? field (Json.present options.members) := by
  rw [declares field known, members_single]
  simp [Json.present, Assoc.find?, other]

theorem noOther (readable : options.Readable) {name : String} (known : name ∈ operatorNames)
    (other : name ≠ operator.name) : record.get? name = none := by
  rw [declares.elsewhere (operatorNames_subset known) other,
    find?_options_of_operator readable known]

theorem absence (readable : options.Readable) :
    record.get? "absent" = none ∨ record.get? "absent" = some (.bool true) := by
  by_cases same : operator.name = "absent"
  · exact .inr (by rw [← same, declares.operand, operandJson_of_absent same])
  · exact .inl (declares.noOther readable (by decide) (Ne.symm same))

theorem option {name : String} {value : Option Json}
    (listed : (name, value) ∈ options.members.tail) : record.get? name = value := by
  have named : name ∈ optionNames.tail := by
    rw [← keys_members options, ← List.map_tail]
    exact List.mem_map.mpr ⟨(name, value), listed, rfl⟩
  have other : name ≠ operator.name := fun same =>
    not_mem_tail_optionNames operator.name (name_mem_operatorNames operator) (same ▸ named)
  rw [declares.elsewhere (optionNames_subset (List.mem_of_mem_tail named)) other,
    Json.find?_present (keys_optionMembers_nodup options) (List.mem_of_mem_tail listed)]

theorem readFields_eq (readable : options.Readable) (notNull : operandJson operator ≠ .null)
    (back : operandReader fuel operator (operandJson operator) = some [operator]) :
    readFields fuel record = some (.mk [operator] options) := by
  obtain ⟨operators, operatorsRead, single⟩ :=
    mapM_readOperator (by rw [keys_operandReaders]; decide) (operandReader_mem operator)
      declares.operand notNull back
      fun name known other => declares.noOther readable (keys_operandReaders fuel ▸ known) other
  have optionsRead := readOptions_eq readable (declares.absence readable)
    fun name value listed => declares.option listed
  rw [PatternDefinition.readFields_eq, operatorsRead, optionsRead]
  simp [single]

end Declares

end PatternDefinition

end ServiceStub
