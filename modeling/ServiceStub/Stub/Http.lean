import ServiceStub.Http.Response
import ServiceStub.Pattern.Request
import ServiceStub.Stub.Basic

namespace ServiceStub

structure HttpStub where
  id : Uuid
  name : Option String := none
  priority : Option Int := none
  request : RequestPattern := .any
  response : Http.ResponseDefinition := {}
  scenario : Option ScenarioSpec := none
  persistent : Bool := false
  metadata : Option Json := none

namespace HttpStub

instance : Stub HttpStub Http.Request where
  id := HttpStub.id
  name := HttpStub.name
  priority stub := stub.priority.getD Stub.defaultPriority
  specificity stub :=
    { urlRank := stub.request.url.specificity, predicates := stub.request.predicateCount }
  scenario := HttpStub.scenario
  evaluate now stub request := stub.request.evaluate now request

/-- Let a stub take part in a scenario, with the states it already names. -/
def inScenario (stub : HttpStub) (name : String) : HttpStub :=
  { stub with
    scenario := some <| match stub.scenario with
      | none => { name }
      | some spec => { spec with name } }

def requiring (stub : HttpStub) (state : String) : HttpStub :=
  { stub with scenario := stub.scenario.map fun spec => { spec with requiredState := some state } }

def movingTo (stub : HttpStub) (state : String) : HttpStub :=
  { stub with scenario := stub.scenario.map fun spec => { spec with newState := some state } }

end HttpStub

structure HttpStubDefinition where
  id : Option Uuid := none
  name : Option String := none
  priority : Option Int := none
  request : RequestDefinition := {}
  response : Http.ResponseDefinition := {}
  scenario : ScenarioFields := {}
  persistent : Bool := false
  metadata : Option Json := none

def Json.asPriority? (value : Json) : Option Int :=
  value.asInt?.filter fun number => -0x80000000 ≤ number && number < 0x80000000

def Json.asUuid? (value : Json) : Option Uuid := value.asString?.bind Uuid.ofString?

namespace HttpStubDefinition

def fieldNames : List String :=
  ["id", "name", "priority", "request", "response"] ++ ScenarioFields.fieldNames ++
    ["persistent", "metadata"]

def ofJson (document : Json) : Option HttpStubDefinition := do
  let record ← Record.ofJson fieldNames document
  return {
    id := ← record.optional "id" Json.asUuid?
    name := ← record.optional "name" Json.asString?
    priority := ← record.optional "priority" Json.asPriority?
    request := ← record.withDefault "request" {} RequestDefinition.ofJson
    response := ← record.withDefault "response" {} Http.ResponseDefinition.ofJson
    scenario := ← ScenarioFields.read record
    persistent := ← record.withDefault "persistent" false Json.asBool?
    metadata := ← record.optional "metadata" fun metadata => some metadata.canonical }

def toJson (definition : HttpStubDefinition) : Json :=
  Json.record <|
    [("id", definition.id.map fun id => .string id.toString),
      ("name", definition.name.map .string),
      ("priority", definition.priority.map .ofInt),
      ("request", some definition.request.toJson),
      ("response", some definition.response.toJson),
      ("persistent", if definition.persistent then some (.bool true) else none),
      ("metadata", definition.metadata)] ++
    definition.scenario.members

/-- Build the stub that a declaration describes; it gets the fresh id unless it declares one. -/
def compile (fresh : Uuid) (definition : HttpStubDefinition) : Except StateError HttpStub := do
  let request ← StateError.ofPatternResult "request" definition.request.compile
  let scenario ← definition.scenario.toSpec
  return {
    id := definition.id.getD fresh
    name := definition.name
    priority := definition.priority
    request
    response := definition.response
    scenario
    persistent := definition.persistent
    metadata := definition.metadata }

end HttpStubDefinition

namespace HttpStub

def definition (stub : HttpStub) : HttpStubDefinition :=
  { id := some stub.id
    name := stub.name
    priority := stub.priority
    request := stub.request.definition
    response := stub.response
    scenario := .ofSpec stub.scenario
    persistent := stub.persistent
    metadata := stub.metadata }

def toJson (stub : HttpStub) : Json := stub.definition.toJson

/-- Stubs are the same if their declarations are. -/
instance : BEq HttpStub := ⟨fun left right => left.toJson == right.toJson⟩

end HttpStub

end ServiceStub
