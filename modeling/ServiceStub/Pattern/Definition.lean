import ServiceStub.Json.Record
import ServiceStub.Pattern.Basic

/-! The declarative form of patterns: reading it, building the pattern it describes, and
writing a pattern in this form. -/

namespace ServiceStub

/-- What modifies an operator.  An option that its operator does not know is passed over, and
to declare that a value need not be absent has no effect. -/
structure PatternOptions where
  notAbsent : Bool := false
  caseInsensitive : Option Bool := none
  ignoreArrayOrder : Option Bool := none
  ignoreExtraElements : Option Bool := none
  xPathNamespaces : Option (List (String × String)) := none
  expectedFormat : Option String := none
  actualFormat : Option String := none
  expectedOffset : Option Int := none
  expectedOffsetUnit : Option String := none
  truncateExpected : Option String := none
  truncateActual : Option String := none

def PatternOptions.members (options : PatternOptions) : List (String × Option Json) :=
  [("absent", if options.notAbsent then some (.bool false) else none),
    ("caseInsensitive", options.caseInsensitive.map .bool),
    ("ignoreArrayOrder", options.ignoreArrayOrder.map .bool),
    ("ignoreExtraElements", options.ignoreExtraElements.map .bool),
    ("xPathNamespaces",
      options.xPathNamespaces.map fun namespaces =>
        .object (Assoc.mapValues .string namespaces)),
    ("expectedFormat", options.expectedFormat.map .string),
    ("actualFormat", options.actualFormat.map .string),
    ("expectedOffset", options.expectedOffset.map .ofInt),
    ("expectedOffsetUnit", options.expectedOffsetUnit.map .string),
    ("truncateExpected", options.truncateExpected.map .string),
    ("truncateActual", options.truncateActual.map .string)]

mutual

/-- The declaration of a pattern: its operators in a fixed order, of which there must be one,
and options. -/
inductive PatternDefinition where
  | mk (operators : List OperatorDefinition) (options : PatternOptions)

/-- An operator and its operand as they are declared.  A pattern for what an expression selects
may be declared without operators, and then asks for nothing more. -/
inductive OperatorDefinition where
  | equalTo (expected : String)
  | contains (expected : String)
  | doesNotContain (expected : String)
  | matchesRegex (expression : String)
  | doesNotMatch (expression : String)
  | absent
  | equalToJson (expected : Json)
  | matchesJsonPath (expression : String) (value : Option PatternDefinition)
  | matchesXPath (expression : String) (value : Option PatternDefinition)
  | dateTime (comparison : DateTimeComparison) (expected : String)
  | binaryEqualTo (encoded : String)
  | matchesJsonSchema (schema : Json)
  | and (definitions : List PatternDefinition)
  | or (definitions : List PatternDefinition)
  | not (definition : PatternDefinition)

end

namespace OperatorDefinition

def name : OperatorDefinition → String
  | .equalTo _ => "equalTo"
  | .contains _ => "contains"
  | .doesNotContain _ => "doesNotContain"
  | .matchesRegex _ => "matches"
  | .doesNotMatch _ => "doesNotMatch"
  | .absent => "absent"
  | .equalToJson _ => "equalToJson"
  | .matchesJsonPath _ _ => "matchesJsonPath"
  | .matchesXPath _ _ => "matchesXPath"
  | .dateTime comparison _ => comparison.operator
  | .binaryEqualTo _ => "binaryEqualTo"
  | .matchesJsonSchema _ => "matchesJsonSchema"
  | .and _ => "and"
  | .or _ => "or"
  | .not _ => "not"

end OperatorDefinition

namespace PatternDefinition

def fieldNames : List String :=
  ["equalTo", "caseInsensitive", "contains", "doesNotContain", "matches", "doesNotMatch",
    "absent", "equalToJson", "ignoreArrayOrder", "ignoreExtraElements", "matchesJsonPath",
    "matchesXPath", "xPathNamespaces", "before", "after", "equalToDateTime", "expectedFormat",
    "actualFormat", "expectedOffset", "expectedOffsetUnit", "truncateExpected",
    "truncateActual", "binaryEqualTo", "matchesJsonSchema", "and", "or", "not"]

def readOptions (record : Record) : Option PatternOptions := do
  let absent ← record.optional "absent" Json.asBool?
  return {
    notAbsent := absent == some false
    caseInsensitive := ← record.optional "caseInsensitive" Json.asBool?
    ignoreArrayOrder := ← record.optional "ignoreArrayOrder" Json.asBool?
    ignoreExtraElements := ← record.optional "ignoreExtraElements" Json.asBool?
    xPathNamespaces := ← record.optional "xPathNamespaces" (Json.tableOf? Json.asString?)
    expectedFormat := ← record.optional "expectedFormat" Json.asString?
    actualFormat := ← record.optional "actualFormat" Json.asString?
    expectedOffset := ← record.optional "expectedOffset" Json.asSignedWord?
    expectedOffsetUnit := ← record.optional "expectedOffsetUnit" Json.asString?
    truncateExpected := ← record.optional "truncateExpected" Json.asString?
    truncateActual := ← record.optional "truncateActual" Json.asString? }

mutual

/-- Read a definition from a document, with fuel for the documents inside it. -/
def read (fuel : Nat) (document : Json) : Option PatternDefinition :=
  match fuel with
  | 0 => none
  | fuel + 1 => (Record.ofJson fieldNames document).bind (readFields fuel)

def readFields (fuel : Nat) (record : Record) : Option PatternDefinition := do
  let text (name : String) (operator : String → OperatorDefinition) :
      Option (List OperatorDefinition) :=
    (record.optional name Json.asString?).map fun operand => (operand.map operator).toList
  let value (name : String) (operator : Json → OperatorDefinition) :
      Option (List OperatorDefinition) :=
    (record.optional name fun operand => some operand.canonical).map fun operand =>
      (operand.map operator).toList
  let expression (name : String)
      (operator : String → Option PatternDefinition → OperatorDefinition) :
      Option (List OperatorDefinition) :=
    (record.optional name (readExpression fuel)).map fun operand =>
      (operand.map fun (expression, value) => operator expression value).toList
  let list (name : String) (operator : List PatternDefinition → OperatorDefinition) :
      Option (List OperatorDefinition) :=
    (record.optional name (Json.listOf? (read fuel))).map fun operand =>
      (operand.map operator).toList
  let absent := (record.optional "absent" Json.asBool?).map fun operand =>
    if operand == some true then [OperatorDefinition.absent] else []
  let negation := (record.optional "not" (read fuel)).map fun operand =>
    (operand.map OperatorDefinition.not).toList
  let operators ← [
    text "equalTo" .equalTo, text "contains" .contains, text "doesNotContain" .doesNotContain,
    text "matches" .matchesRegex, text "doesNotMatch" .doesNotMatch, absent,
    value "equalToJson" .equalToJson, expression "matchesJsonPath" .matchesJsonPath,
    expression "matchesXPath" .matchesXPath, text "before" (.dateTime .before),
    text "after" (.dateTime .after), text "equalToDateTime" (.dateTime .equal),
    text "binaryEqualTo" .binaryEqualTo, value "matchesJsonSchema" .matchesJsonSchema,
    list "and" .and, list "or" .or, negation].mapM id
  return .mk operators.flatten (← readOptions record)

/-- Read an expression, alone or among the fields of a pattern for what it selects. -/
def readExpression (fuel : Nat) (document : Json) :
    Option (String × Option PatternDefinition) :=
  match fuel, document with
  | _, .string expression => some (expression, none)
  | 0, _ => none
  | fuel + 1, document => do
      let record ← Record.ofMembers ("expression" :: fieldNames) document
      let expression ← record.required "expression" Json.asString?
      return (expression, some (← readFields fuel record))

end

def ofJson (document : Json) : Option PatternDefinition :=
  read (2 * document.depth + 2) document

def within {α : Type} (field : String) : Except PatternError α → Except PatternError α
  | .ok value => .ok value
  | .error error => .error (error.within field)

def place (field : String) (index : Nat) : String := field ++ "[" ++ toString index ++ "]"

def fail {α : Type} (fault : PatternFault) : Except PatternError α := .error (.ofFault fault)

def applying {α β : Type} (value : Option β) (apply : α → β → Except PatternError α)
    (start : α) : Except PatternError α :=
  match value with
  | none => .ok start
  | some value => apply start value

def dateTime (options : PatternOptions) (comparison : DateTimeComparison) (text : String) :
    Except PatternError Pattern := do
  let pattern ← DateTimePattern.ofText comparison text options.expectedFormat
  let unit := options.expectedOffsetUnit.getD "days"
  let pattern ←
    applying options.expectedOffset (fun pattern amount => pattern.withOffset amount unit) pattern
  let pattern ← applying options.truncateExpected DateTimePattern.truncatingExpected pattern
  let pattern ← applying options.truncateActual DateTimePattern.truncatingActual pattern
  return .dateTime { pattern with actualFormat := options.actualFormat }

/-- A document given as a string is read, and any other is taken as it is. -/
def jsonEquality (options : PatternOptions) (expected : Json) : Except PatternError Pattern := do
  let expected ← match expected with
    | .string text =>
        match Json.parse text with
        | some document => pure document
        | none => fail .expectedNotJson
    | document => pure document
  return .equalToJson {
    expected
    ignoreArrayOrder := options.ignoreArrayOrder.getD false
    ignoreExtraElements := options.ignoreExtraElements.getD false }

def binary (encoded : String) : Except PatternError Pattern :=
  match Text.Base64.decode? encoded with
  | some bytes => .ok (.binaryEqualTo bytes)
  | none => fail .expectedNotBase64

mutual

def compile (definition : PatternDefinition) : Except PatternError Pattern :=
  match definition with
  | .mk [] _ => fail .noOperator
  | .mk [operator] options => compileOperator options operator
  | .mk (first :: second :: rest) _ =>
      fail (.severalOperators ((first :: second :: rest).map OperatorDefinition.name))

def compileOperator (options : PatternOptions) (operator : OperatorDefinition) :
    Except PatternError Pattern :=
  match operator with
  | .equalTo expected => .ok (.equalTo expected (options.caseInsensitive.getD false))
  | .contains expected => .ok (.contains expected)
  | .doesNotContain expected => .ok (.doesNotContain expected)
  | .matchesRegex expression => do return .matchesRegex (← WholeRegex.ofString expression)
  | .doesNotMatch expression => do return .doesNotMatch (← WholeRegex.ofString expression)
  | .absent => .ok .absent
  | .equalToJson expected => jsonEquality options expected
  | .matchesJsonPath expression value => do
      let value ← within "matchesJsonPath" (compileValue value)
      return .matchesJsonPath (← JsonSelector.ofString expression) value
  | .matchesXPath expression value => do
      let value ← within "matchesXPath" (compileValue value)
      let namespaces := options.xPathNamespaces.getD []
      return .matchesXPath (← XmlSelector.ofString expression namespaces) value
  | .dateTime comparison expected => dateTime options comparison expected
  | .binaryEqualTo encoded => binary encoded
  | .matchesJsonSchema schema => do return .matchesJsonSchema (← JsonSchema.ofJson schema)
  | .and [] => fail (.emptyList "and")
  | .and definitions => do return .and (← compileEach "and" 0 definitions)
  | .or [] => fail (.emptyList "or")
  | .or definitions => do return .or (← compileEach "or" 0 definitions)
  | .not definition => do return .not (← within "not" (compile definition))

def compileValue (definition : Option PatternDefinition) :
    Except PatternError (Option Pattern) :=
  match definition with
  | none => .ok none
  | some (.mk [] _) => .ok none
  | some definition => do return some (← compile definition)

def compileEach (field : String) (index : Nat) (definitions : List PatternDefinition) :
    Except PatternError (List Pattern) :=
  match definitions with
  | [] => .ok []
  | definition :: definitions => do
      let first ← within (place field index) (compile definition)
      return first :: (← compileEach field (index + 1) definitions)

end

mutual

def members (definition : PatternDefinition) : List (String × Option Json) :=
  match definition with
  | .mk operators options => operatorMembers operators ++ options.members

def operatorMembers (operators : List OperatorDefinition) : List (String × Option Json) :=
  match operators with
  | [] => []
  | operator :: operators =>
      (operator.name, some (operandJson operator)) :: operatorMembers operators

def operandJson (operator : OperatorDefinition) : Json :=
  match operator with
  | .equalTo expected => .string expected
  | .contains expected => .string expected
  | .doesNotContain expected => .string expected
  | .matchesRegex expression => .string expression
  | .doesNotMatch expression => .string expression
  | .absent => .bool true
  | .equalToJson expected => expected
  | .matchesJsonPath expression value => expressionJson expression value
  | .matchesXPath expression value => expressionJson expression value
  | .dateTime _ expected => .string expected
  | .binaryEqualTo encoded => .string encoded
  | .matchesJsonSchema schema => schema
  | .and definitions => .array (listJson definitions)
  | .or definitions => .array (listJson definitions)
  | .not definition => Json.record (members definition)

def expressionJson (expression : String) (value : Option PatternDefinition) : Json :=
  match value with
  | none => .string expression
  | some definition =>
      Json.record (("expression", some (.string expression)) :: members definition)

def listJson (definitions : List PatternDefinition) : List Json :=
  match definitions with
  | [] => []
  | definition :: definitions => Json.record (members definition) :: listJson definitions

end

def toJson (definition : PatternDefinition) : Json := Json.record definition.members

end PatternDefinition

namespace Pattern

def ofJson (document : Json) : Option (Except PatternError Pattern) :=
  (PatternDefinition.ofJson document).map PatternDefinition.compile

def flagOption (flag : Bool) : Option Bool := if flag then some true else none

def dateTimeDefinition (pattern : DateTimePattern) : PatternDefinition :=
  .mk [.dateTime pattern.comparison pattern.text] {
    expectedFormat := pattern.expectedFormat
    actualFormat := pattern.actualFormat
    expectedOffset := pattern.offset.map Prod.fst
    expectedOffsetUnit := pattern.offset.map fun offset => offset.2.name
    truncateExpected := pattern.truncateExpected.map Calendar.Truncation.name
    truncateActual := pattern.truncateActual.map Calendar.Truncation.name }

mutual

def definition : Pattern → PatternDefinition
  | .equalTo expected caseInsensitive =>
      .mk [.equalTo expected] { caseInsensitive := flagOption caseInsensitive }
  | .contains expected => .mk [.contains expected] {}
  | .doesNotContain expected => .mk [.doesNotContain expected] {}
  | .matchesRegex expression => .mk [.matchesRegex expression.source] {}
  | .doesNotMatch expression => .mk [.doesNotMatch expression.source] {}
  | .absent => .mk [.absent] {}
  | .equalToJson equality =>
      .mk [.equalToJson equality.expected] {
        ignoreArrayOrder := flagOption equality.ignoreArrayOrder
        ignoreExtraElements := flagOption equality.ignoreExtraElements }
  | .matchesJsonPath selector value =>
      .mk [.matchesJsonPath selector.expression (valueDefinition value)] {}
  | .matchesXPath selector value =>
      .mk [.matchesXPath selector.expression (valueDefinition value)] {
        xPathNamespaces :=
          if selector.namespaces.isEmpty then none else some selector.namespaces }
  | .dateTime pattern => dateTimeDefinition pattern
  | .binaryEqualTo bytes => .mk [.binaryEqualTo (Text.Base64.encode bytes)] {}
  | .matchesJsonSchema schema => .mk [.matchesJsonSchema schema.document] {}
  | .and patterns => .mk [.and (definitions patterns)] {}
  | .or patterns => .mk [.or (definitions patterns)] {}
  | .not pattern => .mk [.not (definition pattern)] {}

def definitions : List Pattern → List PatternDefinition
  | [] => []
  | pattern :: patterns => definition pattern :: definitions patterns

def valueDefinition : Option Pattern → Option PatternDefinition
  | none => none
  | some pattern => some (definition pattern)

end

def toJson (pattern : Pattern) : Json := pattern.definition.toJson

/-- Patterns are the same if their definitions are. -/
instance : BEq Pattern := ⟨fun left right => left.toJson == right.toJson⟩

end Pattern

end ServiceStub
