import ServiceStub.Json.Containment
import ServiceStub.Json.Parser
import ServiceStub.MatchResult
import ServiceStub.Text.Blank
import ServiceStub.Total

namespace ServiceStub

/-- Equality with a JSON document, which may pass over the order of arrays and over elements
that are not expected. -/
structure JsonEquality where
  expected : Json
  ignoreArrayOrder : Bool := false
  ignoreExtraElements : Bool := false

namespace JsonEquality

def paragraphs : List Char → List (List Char)
  | [] => [[]]
  | '\n' :: '\n' :: rest => [] :: paragraphs rest
  | c :: rest =>
      match paragraphs rest with
      | [] => [[c]]
      | piece :: pieces => (c :: piece) :: pieces

/-- How many paragraphs the report of a difference at a path takes up: one, and more if the
path itself holds blank lines. -/
def reportLength (path : String) : Nat :=
  ((paragraphs ('.' :: path.toList ++ ['.'])).filter fun piece =>
    !(Text.trimBoth Text.isBlank piece).isEmpty).length

variable {R : Type} [Scalar R]

/-- The distance grows with the differences in proportion to the size of the expected
document. -/
def evaluateDocument (pattern : JsonEquality) (actual : Json) : MatchResult R :=
  let lenient := pattern.ignoreArrayOrder && pattern.ignoreExtraElements
  if lenient && pattern.expected.includes actual then .exact
  else
    let arrange := if pattern.ignoreArrayOrder then Json.sortItems else id
    let expected := arrange pattern.expected
    let comparison : Json.Comparison :=
      if pattern.ignoreExtraElements then .inclusive else .strict
    match Json.differences comparison "" expected (arrange actual) with
    | [] => if lenient then .mismatch Scalar.zero else .exact
    | paths =>
        .mismatch (Scalar.ratio (total reportLength paths) expected.leafCount)

def evaluate (pattern : JsonEquality) (value : String) : MatchResult R :=
  match Json.parse value with
  | none => .noMatch
  | some actual => pattern.evaluateDocument actual

end JsonEquality

end ServiceStub
