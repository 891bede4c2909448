import ServiceStub.Proofs.Pattern.FieldDeclaration

/-!
Where a declaration is at fault.  The path of an error leads through the declarations inside a
declaration to one that is rejected when it is built alone.
-/

namespace ServiceStub

variable {α β : Type} {error : PatternError}

namespace PatternDefinition

theorem within_eq_error {field : String} {result : Except PatternError α} :
    within field result = .error error ↔
      ∃ inner, result = .error inner ∧ error = inner.within field := by
  cases result with
  | ok value => simp [within]
  | error inner => simp [within, eq_comm]

/-- All errors of a result are faults of the declaration itself and of nothing inside it. -/
def OwnFaults (result : Except PatternError α) : Prop :=
  ∀ error, result = .error error → error.path = []

theorem ownFaults_ok (value : α) : OwnFaults (.ok value) := nofun

theorem ownFaults_ofFault (fault : PatternFault) :
    OwnFaults (.error (.ofFault fault) : Except PatternError α) := by
  rintro _ ⟨⟩
  rfl

theorem OwnFaults.bind {start : Except PatternError α} {next : α → Except PatternError β}
    (first : OwnFaults start) (later : ∀ value, OwnFaults (next value)) :
    OwnFaults (start >>= next) := by
  intro error rejected
  rcases bind_eq_error.mp rejected with rejected | ⟨value, -, rejected⟩
  · exact first error rejected
  · exact later value error rejected

theorem OwnFaults.applying {value : Option β} {apply : α → β → Except PatternError α}
    (applied : ∀ start value, OwnFaults (apply start value)) (start : α) :
    OwnFaults (applying value apply start) := by
  cases value with
  | none => exact ownFaults_ok start
  | some value => exact applied start value

theorem ownFaults_regex (expression : String) : OwnFaults (WholeRegex.ofString expression) := by
  rw [WholeRegex.ofString]
  split
  · exact ownFaults_ok _
  · exact ownFaults_ofFault _
  · exact ownFaults_ofFault _

private theorem ownFaults_jsonSelector (expression : String) :
    OwnFaults (JsonSelector.ofString expression) := by
  rw [JsonSelector.ofString]
  split
  · exact ownFaults_ok _
  · exact ownFaults_ofFault _

private theorem ownFaults_xmlSelector (expression : String) (namespaces : List (String × String)) :
    OwnFaults (XmlSelector.ofString expression namespaces) := by
  rw [XmlSelector.ofString]
  split
  · exact ownFaults_ok _
  · exact ownFaults_ofFault _

private theorem ownFaults_jsonSchema (schema : Json) : OwnFaults (JsonSchema.ofJson schema) := by
  rw [JsonSchema.ofJson]
  split
  · exact ownFaults_ok _
  · exact ownFaults_ofFault _

private theorem ownFaults_binary (encoded : String) : OwnFaults (binary encoded) := by
  rw [binary]
  split
  · exact ownFaults_ok _
  · exact ownFaults_ofFault _

private theorem ownFaults_jsonEquality (options : PatternOptions) (expected : Json) :
    OwnFaults (jsonEquality options expected) := by
  unfold jsonEquality
  split
  · split
    · exact ownFaults_ok _
    · exact ownFaults_ofFault _
  · exact ownFaults_ok _

private theorem ownFaults_moment (comparison : DateTimeComparison) (text : String)
    (format : Option String) : OwnFaults (DateTimePattern.ofText comparison text format) := by
  rw [DateTimePattern.ofText]
  split
  · exact ownFaults_ok _
  · exact ownFaults_ofFault _

private theorem ownFaults_offset (pattern : DateTimePattern) (amount : Int) (unit : String) :
    OwnFaults (pattern.withOffset amount unit) := by
  unfold DateTimePattern.withOffset
  split
  · exact ownFaults_ok _
  · exact ownFaults_ofFault _

private theorem ownFaults_truncation (name : String) :
    OwnFaults (DateTimePattern.truncationNamed name) := by
  rw [DateTimePattern.truncationNamed]
  split
  · exact ownFaults_ok _
  · exact ownFaults_ofFault _

private theorem ownFaults_dateTime (options : PatternOptions) (comparison : DateTimeComparison)
    (text : String) : OwnFaults (dateTime options comparison text) := by
  rw [dateTime]
  refine .bind (ownFaults_moment comparison text _) fun start => ?_
  refine .bind (.applying (fun pattern amount => ownFaults_offset pattern amount _) start)
    fun shifted => ?_
  refine .bind (.applying (fun pattern name => ?_) shifted) fun truncated => ?_
  · exact .bind (ownFaults_truncation name) fun _ => ownFaults_ok _
  refine .bind (.applying (fun pattern name => ?_) truncated) fun _ => ownFaults_ok _
  exact .bind (ownFaults_truncation name) fun _ => ownFaults_ok _

end PatternDefinition

/-- A declaration stands at a place in the operand of an operator.  One without operators is no
pattern for what an expression selects. -/
inductive OperatorDefinition.Holds :
    OperatorDefinition → (place : String) → PatternDefinition → Prop
  | matchesJsonPath {expression : String} {operator : OperatorDefinition}
      {operators : List OperatorDefinition} {options : PatternOptions} :
      Holds (.matchesJsonPath expression (some (.mk (operator :: operators) options)))
        "matchesJsonPath" (.mk (operator :: operators) options)
  | matchesXPath {expression : String} {operator : OperatorDefinition}
      {operators : List OperatorDefinition} {options : PatternOptions} :
      Holds (.matchesXPath expression (some (.mk (operator :: operators) options)))
        "matchesXPath" (.mk (operator :: operators) options)
  | and {definitions : List PatternDefinition} {index : Nat} {definition : PatternDefinition}
      (found : definitions[index]? = some definition) :
      Holds (.and definitions) (PatternDefinition.place "and" index) definition
  | or {definitions : List PatternDefinition} {index : Nat} {definition : PatternDefinition}
      (found : definitions[index]? = some definition) :
      Holds (.or definitions) (PatternDefinition.place "or" index) definition
  | not {definition : PatternDefinition} : Holds (.not definition) "not" definition

theorem OperatorDefinition.Holds.sizeOf_lt {operator : OperatorDefinition} {place : String}
    {definition : PatternDefinition} (holds : operator.Holds place definition) :
    sizeOf definition < sizeOf operator := by
  cases holds with
  | matchesJsonPath => simp; omega
  | matchesXPath => simp; omega
  | and found =>
      have smaller := List.sizeOf_lt_of_mem (List.mem_of_getElem? found)
      simp; omega
  | or found =>
      have smaller := List.sizeOf_lt_of_mem (List.mem_of_getElem? found)
      simp; omega
  | not => simp

namespace PatternDefinition

/-- The path leads to a declaration that is rejected when it is built alone. -/
inductive FaultAt : PatternDefinition → List String → PatternFault → Prop
  | own {definition : PatternDefinition} {fault : PatternFault}
      (rejected : definition.compile = .error (.ofFault fault)) : FaultAt definition [] fault
  | inside {operator : OperatorDefinition} {options : PatternOptions} {place : String}
      {definition : PatternDefinition} {path : List String} {fault : PatternFault}
      (holds : operator.Holds place definition) (inner : FaultAt definition path fault) :
      FaultAt (.mk [operator] options) (place :: path) fault

theorem compileEach_eq_error {field : String} {index : Nat} {definitions : List PatternDefinition}
    (rejected : compileEach field index definitions = .error error) :
    ∃ (offset : Nat) (definition : PatternDefinition) (inner : PatternError),
      definitions[offset]? = some definition ∧ definition.compile = .error inner ∧
        error = inner.within (place field (index + offset)) := by
  induction definitions generalizing index with
  | nil =>
      rw [compileEach] at rejected
      cases rejected
  | cons definition rest induction =>
      rw [compileEach] at rejected
      rcases bind_eq_error.mp rejected with first | ⟨pattern, -, rejected⟩
      · obtain ⟨inner, rejected, same⟩ := within_eq_error.mp first
        exact ⟨0, definition, inner, rfl, rejected, same⟩
      · rcases bind_eq_error.mp rejected with later | ⟨others, -, rejected⟩
        · obtain ⟨offset, found, inner, listed, rejected, same⟩ := induction later
          refine ⟨offset + 1, found, inner, listed, rejected, ?_⟩
          rw [same, Nat.add_right_comm, Nat.add_assoc]
        · cases rejected

private theorem compileValue_eq_error {value : Option PatternDefinition}
    (rejected : compileValue value = .error error) :
    ∃ operator operators options, value = some (.mk (operator :: operators) options) ∧
      compile (.mk (operator :: operators) options) = .error error := by
  match value with
  | none => cases rejected
  | some (.mk [] _) => cases rejected
  | some (.mk (operator :: operators) options) =>
      rw [compileValue] at rejected
      · rcases bind_eq_error.mp rejected with inner | ⟨pattern, -, rejected⟩
        · exact ⟨operator, operators, options, rfl, inner⟩
        · cases rejected
      · rintro _ ⟨⟩

private theorem holds_of_compileEach {operator : OperatorDefinition} {field : String}
    {definitions : List PatternDefinition}
    (holds : ∀ index definition, definitions[index]? = some definition →
      operator.Holds (place field index) definition)
    (rejected : compileEach field 0 definitions = .error error) :
    ∃ (place : String) (definition : PatternDefinition) (inner : PatternError),
      operator.Holds place definition ∧ definition.compile = .error inner ∧
        error = inner.within place := by
  obtain ⟨index, definition, inner, found, alone, same⟩ := compileEach_eq_error rejected
  rw [Nat.zero_add] at same
  exact ⟨_, definition, inner, holds index definition found, alone, same⟩

private theorem compileOperator_eq_error {options : PatternOptions} {operator : OperatorDefinition}
    (rejected : compileOperator options operator = .error error) :
    error.path = [] ∨
      ∃ (place : String) (definition : PatternDefinition) (inner : PatternError),
        operator.Holds place definition ∧ definition.compile = .error inner ∧
          error = inner.within place := by
  cases operator with
  | equalTo expected => cases rejected
  | contains expected => cases rejected
  | doesNotContain expected => cases rejected
  | matchesRegex expression =>
      exact .inl ((ownFaults_regex expression).bind (fun _ => ownFaults_ok _) error rejected)
  | doesNotMatch expression =>
      exact .inl ((ownFaults_regex expression).bind (fun _ => ownFaults_ok _) error rejected)
  | absent => cases rejected
  | equalToJson expected => exact .inl (ownFaults_jsonEquality options expected error rejected)
  | matchesJsonPath expression value =>
      rcases bind_eq_error.mp rejected with rejected | ⟨pattern, -, rejected⟩
      · obtain ⟨inner, rejected, same⟩ := within_eq_error.mp rejected
        obtain ⟨operator, operators, options, rfl, alone⟩ := compileValue_eq_error rejected
        exact .inr ⟨_, _, inner, .matchesJsonPath, alone, same⟩
      · refine .inl (OwnFaults.bind ?_ (fun _ => ownFaults_ok _) error rejected)
        exact ownFaults_jsonSelector expression
  | matchesXPath expression value =>
      rcases bind_eq_error.mp rejected with rejected | ⟨pattern, -, rejected⟩
      · obtain ⟨inner, rejected, same⟩ := within_eq_error.mp rejected
        obtain ⟨operator, operators, options, rfl, alone⟩ := compileValue_eq_error rejected
        exact .inr ⟨_, _, inner, .matchesXPath, alone, same⟩
      · refine .inl (OwnFaults.bind ?_ (fun _ => ownFaults_ok _) error rejected)
        exact ownFaults_xmlSelector expression _
  | dateTime comparison expected =>
      exact .inl (ownFaults_dateTime options comparison expected error rejected)
  | binaryEqualTo encoded => exact .inl (ownFaults_binary encoded error rejected)
  | matchesJsonSchema schema =>
      exact .inl ((ownFaults_jsonSchema schema).bind (fun _ => ownFaults_ok _) error rejected)
  | and definitions =>
      cases definitions with
      | nil => exact .inl (ownFaults_ofFault _ error rejected)
      | cons first rest =>
          rcases bind_eq_error.mp rejected with rejected | ⟨patterns, -, rejected⟩
          · exact .inr (holds_of_compileEach (fun _ _ => .and) rejected)
          · cases rejected
  | or definitions =>
      cases definitions with
      | nil => exact .inl (ownFaults_ofFault _ error rejected)
      | cons first rest =>
          rcases bind_eq_error.mp rejected with rejected | ⟨patterns, -, rejected⟩
          · exact .inr (holds_of_compileEach (fun _ _ => .or) rejected)
          · cases rejected
  | not definition =>
      rcases bind_eq_error.mp rejected with rejected | ⟨pattern, -, rejected⟩
      · obtain ⟨inner, rejected, same⟩ := within_eq_error.mp rejected
        exact .inr ⟨_, definition, inner, .not, rejected, same⟩
      · cases rejected

private theorem FaultAt.of_own {definition : PatternDefinition}
    (rejected : definition.compile = .error error) (own : error.path = []) :
    definition.FaultAt error.path error.fault := by
  obtain ⟨path, fault⟩ := error
  cases own
  exact .own rejected

theorem faultAt_of_compile {definition : PatternDefinition} {error : PatternError}
    (rejected : definition.compile = .error error) :
    definition.FaultAt error.path error.fault := by
  match definition with
  | .mk [] _ => exact .of_own rejected (ownFaults_ofFault _ error rejected)
  | .mk [operator] options =>
      rw [compile] at rejected
      rcases compileOperator_eq_error rejected with own | ⟨place, inside, inner, holds, alone, rfl⟩
      · exact .of_own rejected own
      · exact .inside holds (faultAt_of_compile alone)
  | .mk (_ :: _ :: _) _ => exact .of_own rejected (ownFaults_ofFault _ error rejected)
termination_by sizeOf definition
decreasing_by
  have smaller := holds.sizeOf_lt
  simp
  omega

theorem compiled_of_compileEach {field : String} {index : Nat}
    {definitions : List PatternDefinition} {patterns : List Pattern}
    (compiled : compileEach field index definitions = .ok patterns) :
    ∀ definition ∈ definitions, ∃ pattern, definition.compile = .ok pattern := by
  induction definitions generalizing index patterns with
  | nil => exact nofun
  | cons definition rest induction =>
      rw [compileEach] at compiled
      obtain ⟨first, firstCompiled, compiled⟩ := bind_eq_ok.mp compiled
      obtain ⟨others, othersCompiled, -⟩ := bind_eq_ok.mp compiled
      exact List.forall_mem_cons.mpr
        ⟨⟨first, within_eq_ok.mp firstCompiled⟩, induction othersCompiled⟩

private theorem compiled_of_holds {operator : OperatorDefinition} {options : PatternOptions}
    {place : String} {definition : PatternDefinition} {pattern : Pattern}
    (holds : operator.Holds place definition)
    (compiled : compileOperator options operator = .ok pattern) :
    ∃ inner, definition.compile = .ok inner := by
  cases holds with
  | matchesJsonPath =>
      obtain ⟨value, valueCompiled, -⟩ := bind_eq_ok.mp compiled
      obtain ⟨inner, alone, -⟩ := bind_eq_ok.mp (within_eq_ok.mp valueCompiled)
      exact ⟨inner, alone⟩
  | matchesXPath =>
      obtain ⟨value, valueCompiled, -⟩ := bind_eq_ok.mp compiled
      obtain ⟨inner, alone, -⟩ := bind_eq_ok.mp (within_eq_ok.mp valueCompiled)
      exact ⟨inner, alone⟩
  | @and definitions index _ found =>
      cases definitions with
      | nil => cases found
      | cons first rest =>
          obtain ⟨patterns, each, -⟩ := bind_eq_ok.mp compiled
          exact compiled_of_compileEach each definition (List.mem_of_getElem? found)
  | @or definitions index _ found =>
      cases definitions with
      | nil => cases found
      | cons first rest =>
          obtain ⟨patterns, each, -⟩ := bind_eq_ok.mp compiled
          exact compiled_of_compileEach each definition (List.mem_of_getElem? found)
  | not =>
      obtain ⟨inner, alone, -⟩ := bind_eq_ok.mp compiled
      exact ⟨inner, within_eq_ok.mp alone⟩

theorem FaultAt.not_compiled {definition : PatternDefinition} {path : List String}
    {fault : PatternFault} (faulty : definition.FaultAt path fault) (pattern : Pattern) :
    definition.compile ≠ .ok pattern := by
  induction faulty generalizing pattern with
  | own rejected =>
      rw [rejected]
      exact nofun
  | inside holds inner induction =>
      intro compiled
      rw [compile] at compiled
      obtain ⟨inside, alone⟩ := compiled_of_holds holds compiled
      exact induction inside alone

end PatternDefinition

namespace MultiValueDefinition

open PatternDefinition (compileEach compileEach_eq_error compiled_of_compileEach ownFaults_ofFault
  place)

inductive FaultAt : MultiValueDefinition → List String → PatternFault → Prop
  | own {definition : MultiValueDefinition} {fault : PatternFault}
      (rejected : definition.compile = .error (.ofFault fault)) : FaultAt definition [] fault
  | single {definition : PatternDefinition} {path : List String} {fault : PatternFault}
      (inner : definition.FaultAt path fault) : FaultAt (.single definition) path fault
  | hasExactly {definitions : List PatternDefinition} {index : Nat}
      {definition : PatternDefinition} {path : List String} {fault : PatternFault}
      (found : definitions[index]? = some definition) (inner : definition.FaultAt path fault) :
      FaultAt (.hasExactly definitions) (place "hasExactly" index :: path) fault
  | includes {definitions : List PatternDefinition} {index : Nat}
      {definition : PatternDefinition} {path : List String} {fault : PatternFault}
      (found : definitions[index]? = some definition) (inner : definition.FaultAt path fault) :
      FaultAt (.includes definitions) (place "includes" index :: path) fault

private theorem compileList_eq_error {operator : String} {definitions : List PatternDefinition}
    (rejected : compileList operator definitions = .error error) :
    error = .ofFault (.emptyList operator) ∨
      ∃ (index : Nat) (definition : PatternDefinition) (inner : PatternError),
        definitions[index]? = some definition ∧ definition.compile = .error inner ∧
          error = inner.within (place operator index) := by
  cases definitions with
  | nil =>
      cases rejected
      exact .inl rfl
  | cons first rest =>
      obtain ⟨index, definition, inner, found, alone, same⟩ := compileEach_eq_error rejected
      rw [Nat.zero_add] at same
      exact .inr ⟨index, definition, inner, found, alone, same⟩

private theorem compiled_of_compileList {operator : String} {definitions : List PatternDefinition}
    {patterns : List Pattern} (compiled : compileList operator definitions = .ok patterns) :
    ∀ definition ∈ definitions, ∃ pattern, definition.compile = .ok pattern := by
  cases definitions with
  | nil => cases compiled
  | cons first rest => exact compiled_of_compileEach compiled

theorem faultAt_of_compile {definition : MultiValueDefinition}
    (rejected : definition.compile = .error error) :
    definition.FaultAt error.path error.fault := by
  cases definition with
  | single definition =>
      rcases bind_eq_error.mp rejected with rejected | ⟨pattern, -, rejected⟩
      · exact .single (PatternDefinition.faultAt_of_compile rejected)
      · cases rejected
  | hasExactly definitions =>
      rcases bind_eq_error.mp rejected with listed | ⟨patterns, -, rejected⟩
      · rcases compileList_eq_error listed with rfl | ⟨index, definition, inner, found, alone, rfl⟩
        · exact .own rejected
        · exact .hasExactly found (PatternDefinition.faultAt_of_compile alone)
      · cases rejected
  | includes definitions =>
      rcases bind_eq_error.mp rejected with listed | ⟨patterns, -, rejected⟩
      · rcases compileList_eq_error listed with rfl | ⟨index, definition, inner, found, alone, rfl⟩
        · exact .own rejected
        · exact .includes found (PatternDefinition.faultAt_of_compile alone)
      · cases rejected

theorem FaultAt.not_compiled {definition : MultiValueDefinition} {path : List String}
    {fault : PatternFault} (faulty : definition.FaultAt path fault) (pattern : MultiValuePattern) :
    definition.compile ≠ .ok pattern := by
  intro compiled
  cases faulty with
  | own rejected =>
      rw [rejected] at compiled
      cases compiled
  | single inner =>
      obtain ⟨value, alone, -⟩ := bind_eq_ok.mp compiled
      exact inner.not_compiled value alone
  | hasExactly found inner =>
      obtain ⟨patterns, each, -⟩ := bind_eq_ok.mp compiled
      obtain ⟨value, alone⟩ := compiled_of_compileList each _ (List.mem_of_getElem? found)
      exact inner.not_compiled value alone
  | includes found inner =>
      obtain ⟨patterns, each, -⟩ := bind_eq_ok.mp compiled
      obtain ⟨value, alone⟩ := compiled_of_compileList each _ (List.mem_of_getElem? found)
      exact inner.not_compiled value alone

end MultiValueDefinition

namespace MultipartDefinition

open PatternDefinition (compileEach_eq_error compiled_of_compileEach place within_eq_error)

inductive FaultAt (definition : MultipartDefinition) : List String → PatternFault → Prop
  | matchingType {name : String} (declared : definition.matchingType = some name)
      (unknown : PartQuantifier.ofText? name = none) :
      FaultAt definition ["matchingType"] (.unknownMatchingType (Text.upper name))
  | header {name : String} {values : MultiValueDefinition} {path : List String}
      {fault : PatternFault} (declared : (name, values) ∈ definition.headers)
      (inner : values.FaultAt path fault) : FaultAt definition ("headers" :: name :: path) fault
  | body {index : Nat} {body : PatternDefinition} {path : List String} {fault : PatternFault}
      (declared : definition.bodies[index]? = some body) (inner : body.FaultAt path fault) :
      FaultAt definition (place "bodyPatterns" index :: path) fault

section

variable {field : String} {compile : α → Except PatternError β} {definitions : List (String × α)}

theorem compileTable_eq_error (rejected : compileTable field compile definitions = .error error) :
    ∃ name definition inner, (name, definition) ∈ definitions ∧
      compile definition = .error inner ∧ error = (inner.within name).within field := by
  obtain ⟨⟨name, definition⟩, declared, rejected⟩ := mem_of_mapM_eq_error rejected
  rcases bind_eq_error.mp rejected with rejected | ⟨value, -, rejected⟩
  · obtain ⟨named, rejectedName, rfl⟩ := within_eq_error.mp rejected
    obtain ⟨inner, alone, rfl⟩ := within_eq_error.mp rejectedName
    exact ⟨name, definition, inner, declared, alone, rfl⟩
  · cases rejected

theorem compiled_of_compileTable {table : List (String × β)}
    (compiled : compileTable field compile definitions = .ok table) :
    ∀ entry ∈ definitions, ∃ value, compile entry.2 = .ok value := by
  rw [compileTable, mapM_eq_ok_iff] at compiled
  intro entry declared
  obtain ⟨index, bound, rfl⟩ := List.getElem_of_mem declared
  have each := compiled.get bound (compiled.length_eq ▸ bound)
  obtain ⟨value, alone, -⟩ := bind_eq_ok.mp each
  exact ⟨value, PatternDefinition.within_eq_ok.mp (PatternDefinition.within_eq_ok.mp alone)⟩

end

private theorem faultAt_of_parts {definition : MultipartDefinition}
    (rejected : compileTable "headers" MultiValueDefinition.compile definition.headers =
        .error error ∨
      PatternDefinition.compileEach "bodyPatterns" 0 definition.bodies = .error error) :
    definition.FaultAt error.path error.fault := by
  rcases rejected with rejected | rejected
  · obtain ⟨name, values, inner, declared, alone, rfl⟩ := compileTable_eq_error rejected
    exact .header declared (MultiValueDefinition.faultAt_of_compile alone)
  · obtain ⟨index, body, inner, declared, alone, rfl⟩ := compileEach_eq_error rejected
    rw [Nat.zero_add]
    exact .body declared (PatternDefinition.faultAt_of_compile alone)

theorem faultAt_of_compile {definition : MultipartDefinition}
    (rejected : definition.compile = .error error) :
    definition.FaultAt error.path error.fault := by
  have parts {quantifier : PartQuantifier}
      (rejected : (do
        let headers ← compileTable "headers" MultiValueDefinition.compile definition.headers
        let bodies ← PatternDefinition.compileEach "bodyPatterns" 0 definition.bodies
        return ({ name := definition.name, quantifier, headers, bodies } : MultipartPattern)) =
          .error error) : definition.FaultAt error.path error.fault := by
    refine faultAt_of_parts ?_
    rcases bind_eq_error.mp rejected with headers | ⟨_, -, rejected⟩
    · exact .inl headers
    · rcases bind_eq_error.mp rejected with bodies | ⟨_, -, rejected⟩
      · exact .inr bodies
      · cases rejected
  unfold compile at rejected
  split at rejected
  · exact parts rejected
  · next name declared =>
      split at rejected
      · exact parts rejected
      · next unknown =>
          cases rejected
          exact .matchingType declared unknown

theorem FaultAt.not_compiled {definition : MultipartDefinition} {path : List String}
    {fault : PatternFault} (faulty : definition.FaultAt path fault) (pattern : MultipartPattern) :
    definition.compile ≠ .ok pattern := by
  intro compiled
  obtain ⟨headers, bodies⟩ := MultipartPattern.parts_of_compile compiled
  cases faulty with
  | @matchingType name declared unknown =>
      simp only [compile, declared, unknown] at compiled
      cases compiled
  | header declared inner =>
      obtain ⟨value, alone⟩ := compiled_of_compileTable headers _ declared
      exact inner.not_compiled value alone
  | body declared inner =>
      obtain ⟨value, alone⟩ := compiled_of_compileEach bodies _ (List.mem_of_getElem? declared)
      exact inner.not_compiled value alone

end MultipartDefinition

end ServiceStub
