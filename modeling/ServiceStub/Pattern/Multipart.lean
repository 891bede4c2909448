import ServiceStub.Http.Multipart
import ServiceStub.Pattern.MultiValue

namespace ServiceStub

inductive PartQuantifier where
  | any
  | all
  deriving Repr, DecidableEq

namespace PartQuantifier

def name : PartQuantifier → String
  | .any => "ANY"
  | .all => "ALL"

def ofText? (text : String) : Option PartQuantifier :=
  [any, all].find? fun quantifier => quantifier.name == Text.upper text

end PartQuantifier

structure MultipartPattern where
  name : Option String := none
  quantifier : PartQuantifier := .any
  headers : List (String × MultiValuePattern) := []
  bodies : List Pattern := []

namespace MultipartPattern

variable {R : Type} [Scalar R]

def withHeader (pattern : MultipartPattern) (name : String) (value : MultiValuePattern) :
    MultipartPattern :=
  { pattern with headers := Assoc.insert name value pattern.headers }

def predicateCount (pattern : MultipartPattern) : Nat :=
  (if pattern.name.isSome then 1 else 0) +
    total (fun header => header.2.predicateCount) pattern.headers +
    total Pattern.predicateCount pattern.bodies

def evaluateName (expected : String) (actual : Option String) : MatchResult R :=
  match actual with
  | none => .noMatch
  | some actual =>
      if actual == expected then .exact else .mismatch (Text.distance true expected actual)

def evaluatePart (now : Calendar.Instant) (pattern : MultipartPattern) (part : Http.Part) :
    MatchResult R :=
  .mean <|
    (pattern.name.toList.map fun name => evaluateName name part.name) ++
      (pattern.headers.map fun header =>
        header.2.evaluate now (Http.Headers.values part.headers header.1)) ++
      pattern.bodies.map fun body => body.evaluateBytes now (some part.body)

/-- A request without parts never matches. -/
def evaluate (now : Calendar.Instant) (pattern : MultipartPattern) (parts : List Http.Part) :
    MatchResult R :=
  if parts.isEmpty then .noMatch
  else
    let results := parts.map (pattern.evaluatePart now)
    match pattern.quantifier with
    | .any => .any results
    | .all => .all results

def describe (pattern : MultipartPattern) : String :=
  pattern.quantifier.name ++ " part [" ++
    String.intercalate ", "
      ((pattern.name.toList.map fun name => "name = " ++ name) ++
        (pattern.headers.map fun header => header.1 ++ ": " ++ header.2.display) ++
        pattern.bodies.map fun body => "body " ++ body.display) ++ "]"

end MultipartPattern

structure MultipartDefinition where
  name : Option String
  matchingType : Option String
  headers : List (String × MultiValueDefinition)
  bodies : List PatternDefinition

namespace MultipartDefinition

open PatternDefinition

def ofJson (document : Json) : Option MultipartDefinition := do
  let record ← Record.ofJson ["name", "matchingType", "headers", "bodyPatterns"] document
  return {
    name := ← record.optional "name" Json.asString?
    matchingType := ← record.optional "matchingType" Json.asString?
    headers := ← record.withDefault "headers" [] (Json.tableOf? MultiValueDefinition.ofJson)
    bodies := ← record.withDefault "bodyPatterns" [] (Json.listOf? PatternDefinition.ofJson) }

def compileTable {α β : Type} (field : String) (compile : α → Except PatternError β)
    (definitions : List (String × α)) : Except PatternError (List (String × β)) :=
  definitions.mapM fun definition => do
    let value ← within field (within definition.1 (compile definition.2))
    return (definition.1, value)

def compile (definition : MultipartDefinition) : Except PatternError MultipartPattern := do
  let quantifier ← match definition.matchingType with
    | none => pure PartQuantifier.any
    | some name =>
        match PartQuantifier.ofText? name with
        | some quantifier => pure quantifier
        | none => within "matchingType" (fail (.unknownMatchingType (Text.upper name)))
  let headers ← compileTable "headers" MultiValueDefinition.compile definition.headers
  let bodies ← compileEach "bodyPatterns" 0 definition.bodies
  return { name := definition.name, quantifier, headers, bodies }

def toJson (definition : MultipartDefinition) : Json :=
  Json.record
    [("name", definition.name.map .string),
      ("matchingType", definition.matchingType.map .string),
      ("headers", Json.tableOption MultiValueDefinition.toJson definition.headers),
      ("bodyPatterns", Json.listOption PatternDefinition.toJson definition.bodies)]

end MultipartDefinition

namespace MultipartPattern

def definition (pattern : MultipartPattern) : MultipartDefinition :=
  { name := pattern.name
    matchingType := some pattern.quantifier.name
    headers := Assoc.mapValues MultiValuePattern.definition pattern.headers
    bodies := pattern.bodies.map Pattern.definition }

def toJson (pattern : MultipartPattern) : Json := pattern.definition.toJson

end MultipartPattern

end ServiceStub
