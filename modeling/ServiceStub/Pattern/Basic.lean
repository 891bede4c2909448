import ServiceStub.Json.PathParser
import ServiceStub.Pattern.DateTime
import ServiceStub.Pattern.JsonEquality
import ServiceStub.Pattern.WholeRegex
import ServiceStub.Text.Base64
import ServiceStub.Xml.XPath.Evaluate

namespace ServiceStub

structure JsonSchema where
  document : Json
  checked : Json.Schema.check "#" document = .ok ()

namespace JsonSchema

def ofJson (document : Json) : Except PatternError JsonSchema :=
  match checked : Json.Schema.check "#" document with
  | .ok () => .ok ⟨document, checked⟩
  | .error error => .error (.ofFault (.badSchema error))

def violations (schema : JsonSchema) (document : Json) : Nat :=
  Json.Schema.violations schema.document document

/-- With each violation less similarity remains: a half, then a third, and so on. -/
def evaluate {R : Type} [Scalar R] (schema : JsonSchema) (value : String) : MatchResult R :=
  match Json.parse value with
  | none => .noMatch
  | some document =>
      match schema.violations document with
      | 0 => .exact
      | count => .mismatch (Scalar.ratio count (count + 1))

end JsonSchema

structure JsonSelector where
  expression : String
  path : Json.Path

namespace JsonSelector

def ofString (expression : String) : Except PatternError JsonSelector :=
  match Json.Path.parse expression with
  | some path => .ok ⟨expression, path⟩
  | none => .error (.ofFault (.badJsonPath expression))

def render : Json → String
  | .string text => text
  | value => value.compact

/-- The texts of the selected values, and of all of them together if there are several. -/
def candidates (selector : JsonSelector) (document : Json) : List String :=
  let selected := selector.path.select document
  selected.map render ++ if 1 < selected.length then [(Json.array selected).compact] else []

end JsonSelector

structure XmlSelector where
  expression : String
  namespaces : List (String × String)
  path : Xml.XPath.Expr

namespace XmlSelector

def ofString (expression : String) (namespaces : List (String × String)) :
    Except PatternError XmlSelector :=
  match Xml.XPath.parse expression with
  | some path => .ok ⟨expression, namespaces, path⟩
  | none => .error (.ofFault (.badXPath expression))

inductive Selection where
  | boolean (value : Bool)
  | texts (candidates : List String)

def select (selector : XmlSelector) (text : String) : Option Selection := do
  let document ← Xml.parse text
  match ← Xml.XPath.evaluate selector.path selector.namespaces document with
  | .nodes positions => return .texts (positions.map document.stringValue)
  | .boolean value => return .boolean value
  | .number value => return .texts [Decimal.plainText value]
  | .string text => return .texts [text]

end XmlSelector

/-- A predicate over one value, which is a text or bytes and may be absent. -/
inductive Pattern where
  | equalTo (expected : String) (caseInsensitive : Bool)
  | contains (expected : String)
  | doesNotContain (expected : String)
  | matchesRegex (expression : WholeRegex)
  | doesNotMatch (expression : WholeRegex)
  | absent
  | equalToJson (equality : JsonEquality)
  | matchesJsonPath (selector : JsonSelector) (value : Option Pattern)
  | matchesXPath (selector : XmlSelector) (value : Option Pattern)
  | dateTime (comparison : DateTimePattern)
  | binaryEqualTo (expected : Bytes)
  | matchesJsonSchema (schema : JsonSchema)
  | and (patterns : List Pattern)
  | or (patterns : List Pattern)
  | not (pattern : Pattern)

namespace Pattern

variable {R : Type} [Scalar R]

def evaluateBinary (expected actual : Bytes) : MatchResult R :=
  if actual == expected then .exact else .mismatch (Text.listDistance expected actual)

mutual

def evaluate (now : Calendar.Instant) (pattern : Pattern) (value : Option String) :
    MatchResult R :=
  match pattern, value with
  | .absent, value => .of value.isNone
  | .and patterns, value => .all (evaluateEach now patterns value)
  | .or patterns, value => .any (evaluateEach now patterns value)
  | .not pattern, value =>
      let inner : MatchResult R := evaluate now pattern value
      .of !inner.isExact
  | _, none => .noMatch
  | .equalTo expected caseInsensitive, some text =>
      if Text.equals (!caseInsensitive) expected text then .exact
      else .mismatch (Text.distance (!caseInsensitive) expected text)
  | .contains expected, some text =>
      if Text.containsText true expected text then .exact
      else .mismatch (Text.substringDistance true expected text)
  | .doesNotContain expected, some text => .of !(Text.containsText true expected text)
  | .matchesRegex expression, some text =>
      if expression.isMatch text then .exact else .mismatch (expression.distance text)
  | .doesNotMatch expression, some text => .of !(expression.isMatch text)
  | .equalToJson equality, some text => equality.evaluate text
  | .matchesJsonPath selector value, some text =>
      match Json.parse text with
      | none => .noMatch
      | some document => evaluateSelected now value (selector.candidates document)
  | .matchesXPath selector value, some text =>
      match selector.select text, value with
      | none, _ => .noMatch
      | some (.boolean holds), none => .of holds
      | some (.boolean holds), some value => evaluate now value (some (toString holds))
      | some (.texts candidates), value => evaluateSelected now value candidates
  | .dateTime comparison, some text => comparison.evaluate now text
  | .binaryEqualTo expected, some text => evaluateBinary expected (Text.toBytes text)
  | .matchesJsonSchema schema, some text => schema.evaluate text

def evaluateEach (now : Calendar.Instant) (patterns : List Pattern) (value : Option String) :
    List (MatchResult R) :=
  match patterns with
  | [] => []
  | pattern :: patterns => evaluate now pattern value :: evaluateEach now patterns value

/-- Evaluate a pattern on what was selected; without a pattern something must be selected, and
where nothing is, the pattern sees an absent value. -/
def evaluateSelected (now : Calendar.Instant) (pattern : Option Pattern)
    (candidates : List String) : MatchResult R :=
  match pattern with
  | none => .of !candidates.isEmpty
  | some pattern =>
      if candidates.isEmpty then evaluate now pattern none
      else .any (candidates.map fun text => evaluate now pattern (some text))

end

mutual

/-- Evaluate a pattern on bytes that may be absent.  All operators but equality with bytes see
the text the bytes hold. -/
def evaluateBytes (now : Calendar.Instant) (pattern : Pattern) (value : Option Bytes) :
    MatchResult R :=
  match pattern with
  | .binaryEqualTo expected =>
      match value with
      | none => .noMatch
      | some actual => evaluateBinary expected actual
  | .and patterns => .all (evaluateBytesEach now patterns value)
  | .or patterns => .any (evaluateBytesEach now patterns value)
  | .not pattern =>
      let inner : MatchResult R := evaluateBytes now pattern value
      .of !inner.isExact
  | pattern => evaluate now pattern (value.map Text.ofBytesLossy)

def evaluateBytesEach (now : Calendar.Instant) (patterns : List Pattern)
    (value : Option Bytes) : List (MatchResult R) :=
  match patterns with
  | [] => []
  | pattern :: patterns =>
      evaluateBytes now pattern value :: evaluateBytesEach now patterns value

end

/-- Both patterns must match.  A conjunction takes in the other pattern. -/
def both : Pattern → Pattern → Pattern
  | .and patterns, other => .and (patterns ++ [other])
  | pattern, other => .and [pattern, other]

def either : Pattern → Pattern → Pattern
  | .or patterns, other => .or (patterns ++ [other])
  | pattern, other => .or [pattern, other]

def isAbsent : Pattern → Bool
  | .absent => true
  | _ => false

def operator : Pattern → String
  | .equalTo _ true => "equalToIgnoreCase"
  | .equalTo _ false => "equalTo"
  | .contains _ => "contains"
  | .doesNotContain _ => "doesNotContain"
  | .matchesRegex _ => "matches"
  | .doesNotMatch _ => "doesNotMatch"
  | .absent => "absent"
  | .equalToJson _ => "equalToJson"
  | .matchesJsonPath _ _ => "matchesJsonPath"
  | .matchesXPath _ _ => "matchesXPath"
  | .dateTime comparison => comparison.comparison.operator
  | .binaryEqualTo _ => "binaryEqualTo"
  | .matchesJsonSchema _ => "matchesJsonSchema"
  | .and _ => "and"
  | .or _ => "or"
  | .not _ => "not"

def framed (pattern : Pattern) (expected : String) : String :=
  match pattern with
  | .and _ => "(" ++ expected ++ ")"
  | .or _ => "(" ++ expected ++ ")"
  | .not _ => expected
  | .absent => expected
  | pattern => pattern.operator ++ " " ++ expected

mutual

def expected : Pattern → String
  | .equalTo expected _ => expected
  | .contains expected => expected
  | .doesNotContain expected => expected
  | .matchesRegex expression => expression.source
  | .doesNotMatch expression => expression.source
  | .absent => "(absent)"
  | .equalToJson equality => equality.expected.compact
  | .matchesJsonPath selector value => selector.expression ++ describeValue value
  | .matchesXPath selector value => selector.expression ++ describeValue value
  | .dateTime comparison => comparison.describe
  | .binaryEqualTo bytes => toString bytes.length ++ " bytes"
  | .matchesJsonSchema schema => schema.document.compact
  | .and patterns => String.intercalate " AND " (displayEach patterns)
  | .or patterns => String.intercalate " OR " (displayEach patterns)
  | .not pattern => "not(" ++ framed pattern (expected pattern) ++ ")"

def displayEach : List Pattern → List String
  | [] => []
  | pattern :: patterns => framed pattern (expected pattern) :: displayEach patterns

def describeValue : Option Pattern → String
  | none => ""
  | some pattern => " " ++ framed pattern (expected pattern)

end

def display (pattern : Pattern) : String := pattern.framed pattern.expected

mutual

/-- The number of predicates that are no combination of others. -/
def predicateCount : Pattern → Nat
  | .and patterns => predicateCounts patterns
  | .or patterns => predicateCounts patterns
  | .not pattern => predicateCount pattern
  | _ => 1

def predicateCounts : List Pattern → Nat
  | [] => 0
  | pattern :: patterns => predicateCount pattern + predicateCounts patterns

end

end Pattern

end ServiceStub
