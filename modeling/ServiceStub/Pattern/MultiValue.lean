import ServiceStub.Matching
import ServiceStub.Pattern.Definition

namespace ServiceStub

/-- A pattern over a field with any number of values, such as a repeated header. -/
inductive MultiValuePattern where
  | single (pattern : Pattern)
  | hasExactly (patterns : List Pattern)
  | includes (patterns : List Pattern)

namespace MultiValuePattern

variable {R : Type} [Scalar R]

/-- The value closest to a pattern decides; where there is none, the pattern sees an absent
value. -/
def bestOf (now : Calendar.Instant) (pattern : Pattern) (values : List String) :
    MatchResult R :=
  if values.isEmpty then pattern.evaluate now none
  else .any (values.map fun value => pattern.evaluate now (some value))

/-- Patterns and values must pair up one to one, in any order.  Otherwise the distance is that
of the best values on average, or the share of values missing or left over. -/
def pairUp (now : Calendar.Instant) (patterns : List Pattern) (values : List String) :
    MatchResult R :=
  let results : List (List (MatchResult R)) := patterns.map fun pattern =>
    values.map fun value => pattern.evaluate now (some value)
  let exact := results.map fun row => row.map MatchResult.isExact
  if patterns.length == values.length &&
      Matching.maximum exact values.length == patterns.length then .exact
  else
    let closeness := MatchResult.mean (results.map MatchResult.any)
    let longest := max (max patterns.length values.length) 1
    let gap := max patterns.length values.length - min patterns.length values.length
    .mismatch (Scalar.max closeness.distance (Scalar.ratio gap longest))

def evaluate (now : Calendar.Instant) (pattern : MultiValuePattern) (values : List String) :
    MatchResult R :=
  match pattern with
  | .single pattern => bestOf now pattern values
  | .includes patterns => .mean (patterns.map fun pattern => bestOf now pattern values)
  | .hasExactly patterns => pairUp now patterns values

def isAbsent : MultiValuePattern → Bool
  | .single pattern => pattern.isAbsent
  | _ => false

def operator : MultiValuePattern → String
  | .single pattern => pattern.operator
  | .hasExactly _ => "hasExactly"
  | .includes _ => "includes"

def displayList (patterns : List Pattern) : String :=
  String.intercalate ", " (patterns.map Pattern.display)

def expected : MultiValuePattern → String
  | .single pattern => pattern.expected
  | .hasExactly patterns => displayList patterns
  | .includes patterns => displayList patterns

def display : MultiValuePattern → String
  | .single pattern => pattern.display
  | .hasExactly patterns => "hasExactly [" ++ displayList patterns ++ "]"
  | .includes patterns => "includes [" ++ displayList patterns ++ "]"

def predicateCount : MultiValuePattern → Nat
  | .single pattern => pattern.predicateCount
  | .hasExactly patterns => total Pattern.predicateCount patterns
  | .includes patterns => total Pattern.predicateCount patterns

end MultiValuePattern

inductive MultiValueDefinition where
  | single (definition : PatternDefinition)
  | hasExactly (definitions : List PatternDefinition)
  | includes (definitions : List PatternDefinition)

namespace MultiValueDefinition

def readList (name : String) (document : Json) : Option (List PatternDefinition) := do
  let record ← Record.ofMembers [name] document
  record.required name (Json.listOf? PatternDefinition.ofJson)

/-- Read the first form that fits: a list of patterns under one of the two names, or else a
single pattern. -/
def ofJson (document : Json) : Option MultiValueDefinition :=
  match readList "hasExactly" document with
  | some definitions => some (.hasExactly definitions)
  | none =>
      match readList "includes" document with
      | some definitions => some (.includes definitions)
      | none => (PatternDefinition.ofJson document).map .single

def compileList (operator : String) (definitions : List PatternDefinition) :
    Except PatternError (List Pattern) :=
  match definitions with
  | [] => PatternDefinition.fail (.emptyList operator)
  | definitions => PatternDefinition.compileEach operator 0 definitions

def compile : MultiValueDefinition → Except PatternError MultiValuePattern
  | .single definition => do return .single (← definition.compile)
  | .hasExactly definitions => do return .hasExactly (← compileList "hasExactly" definitions)
  | .includes definitions => do return .includes (← compileList "includes" definitions)

def toJson : MultiValueDefinition → Json
  | .single definition => definition.toJson
  | .hasExactly definitions =>
      Json.record [("hasExactly", some (.array (definitions.map PatternDefinition.toJson)))]
  | .includes definitions =>
      Json.record [("includes", some (.array (definitions.map PatternDefinition.toJson)))]

end MultiValueDefinition

namespace MultiValuePattern

def definition : MultiValuePattern → MultiValueDefinition
  | .single pattern => .single pattern.definition
  | .hasExactly patterns => .hasExactly (patterns.map Pattern.definition)
  | .includes patterns => .includes (patterns.map Pattern.definition)

def toJson (pattern : MultiValuePattern) : Json := pattern.definition.toJson

instance : BEq MultiValuePattern := ⟨fun left right => left.toJson == right.toJson⟩

end MultiValuePattern

end ServiceStub
