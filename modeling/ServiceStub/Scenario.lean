import ServiceStub.Json.Record
import ServiceStub.StateError
import ServiceStub.Table
import ServiceStub.Text.Blank

/-! Scenarios: named states that stubs require, and that a match moves on. -/

namespace ServiceStub

/-- How a stub takes part in a scenario: the state it requires, if any, and the state that the
scenario moves to once the stub has matched. -/
structure ScenarioSpec where
  name : String
  requiredState : Option String := none
  newState : Option String := none
  deriving Repr, DecidableEq

namespace ScenarioSpec

def ofJson (document : Json) : Option ScenarioSpec := do
  let record ← Record.ofJson ["name", "requiredState", "newState"] document
  return {
    name := ← record.required "name" Json.asString?
    requiredState := ← record.optional "requiredState" Json.asString?
    newState := ← record.optional "newState" Json.asString? }

def toJson (spec : ScenarioSpec) : Json :=
  Json.record
    [("name", some (.string spec.name)), ("requiredState", spec.requiredState.map .string),
      ("newState", spec.newState.map .string)]

/-- A stub that requires no state may match in every state. -/
def permits (spec : ScenarioSpec) (current : String) : Bool :=
  match spec.requiredState with
  | none => true
  | some required => required == current

def states (spec : ScenarioSpec) : List String :=
  spec.requiredState.toList ++ spec.newState.toList

end ScenarioSpec

structure Transition where
  scenario : String
  before : String
  after : String
  deriving Repr, DecidableEq

def Transition.message (transition : Transition) : String :=
  "Scenario '" ++ transition.scenario ++ "' moved from '" ++ transition.before ++ "' to '" ++
    transition.after ++ "'"

structure Scenario where
  name : String
  state : String
  possibleStates : List String
  stubs : List Uuid
  deriving Repr, DecidableEq

namespace Scenario

def started : String := "Started"

def toJson (scenario : Scenario) : Json :=
  Json.record
    [("name", some (.string scenario.name)), ("state", some (.string scenario.state)),
      ("possibleStates", some (.array (scenario.possibleStates.map .string))),
      ("mappings", some (.array (scenario.stubs.map fun id => .string id.toString)))]

end Scenario

structure ScenarioEntry where
  state : String := Scenario.started
  stubs : Table Uuid ScenarioSpec := {}
  deriving Repr, DecidableEq

namespace ScenarioEntry

/-- The starting state and every state that a stub names, in ascending order. -/
def possibleStates (entry : ScenarioEntry) : List String :=
  Assoc.keys <| Assoc.ofList <|
    (Scenario.started :: entry.stubs.values.flatMap ScenarioSpec.states).map
      fun state => (state, ())

def toScenario (name : String) (entry : ScenarioEntry) : Scenario :=
  { name, state := entry.state, possibleStates := entry.possibleStates,
    stubs := entry.stubs.keys }

end ScenarioEntry

structure Scenarios where
  entries : Table String ScenarioEntry := {}
  deriving Repr, DecidableEq

namespace Scenarios

def find? (scenarios : Scenarios) (name : String) : Option ScenarioEntry :=
  scenarios.entries.find? name

/-- The entry of a scenario, a fresh one if it is unknown. -/
def entry (scenarios : Scenarios) (name : String) : ScenarioEntry :=
  (scenarios.find? name).getD {}

def put (scenarios : Scenarios) (name : String) (entry : ScenarioEntry) : Scenarios :=
  ⟨scenarios.entries.insert name entry⟩

/-- An unknown scenario is in the starting state. -/
def stateOf (scenarios : Scenarios) (name : String) : String := (scenarios.entry name).state

def addStub (scenarios : Scenarios) (id : Uuid) (spec : ScenarioSpec) : Scenarios :=
  let entry := scenarios.entry spec.name
  scenarios.put spec.name { entry with stubs := entry.stubs.insert id spec }

/-- Forget a stub.  A scenario goes away with its last stub. -/
def removeStub (scenarios : Scenarios) (id : Uuid) (spec : ScenarioSpec) : Scenarios :=
  match scenarios.find? spec.name with
  | none => scenarios
  | some entry =>
      let stubs := entry.stubs.erase id
      if stubs.isEmpty then ⟨scenarios.entries.erase spec.name⟩
      else scenarios.put spec.name { entry with stubs }

def permits (scenarios : Scenarios) : Option ScenarioSpec → Bool
  | none => true
  | some spec => spec.permits (scenarios.stateOf spec.name)

def setState (scenarios : Scenarios) (name state : String) : Except StateError Scenarios :=
  match scenarios.find? name with
  | none => .error (.scenarioNotFound name)
  | some entry => .ok (scenarios.put name { entry with state })

def resetScenario (scenarios : Scenarios) (name : String) : Except StateError Scenarios :=
  scenarios.setState name Scenario.started

def reset (scenarios : Scenarios) : Scenarios :=
  ⟨scenarios.entries.mapValues fun entry => { entry with state := Scenario.started }⟩

def all (scenarios : Scenarios) : List Scenario :=
  scenarios.entries.toList.map fun (name, entry) => entry.toScenario name

def get? (scenarios : Scenarios) (name : String) : Option Scenario :=
  (scenarios.find? name).map (ScenarioEntry.toScenario name)

/-- Make the move of a stub that matched. -/
def move (scenarios : Scenarios) : Option ScenarioSpec → Option Transition × Scenarios
  | none => (none, scenarios)
  | some spec =>
      match spec.newState with
      | none => (none, scenarios)
      | some state =>
          let entry := scenarios.entry spec.name
          (some { scenario := spec.name, before := entry.state, after := state },
            scenarios.put spec.name { entry with state })

variable {α : Type}

/-- Pick the first candidate that its scenario permits, and make its move. -/
def claimFirst (scenarios : Scenarios) (specOf : α → Option ScenarioSpec) (candidates : List α) :
    Option (α × Option Transition) × Scenarios :=
  match candidates.find? fun candidate => scenarios.permits (specOf candidate) with
  | none => (none, scenarios)
  | some candidate =>
      let (transition, scenarios) := scenarios.move (specOf candidate)
      (some (candidate, transition), scenarios)

end Scenarios

structure ScenarioFields where
  name : Option String := none
  requiredState : Option String := none
  newState : Option String := none
  deriving Repr, DecidableEq

namespace ScenarioFields

/-- A state needs the name of its scenario, which must not be blank. -/
def toSpec (fields : ScenarioFields) : Except StateError (Option ScenarioSpec) :=
  match fields with
  | { name := some name, requiredState, newState } =>
      if name.toList.all Text.isBlank then .error .blankScenarioName
      else .ok (some { name, requiredState, newState })
  | { name := none, requiredState := none, newState := none } => .ok none
  | _ => .error .stateWithoutScenario

def ofSpec : Option ScenarioSpec → ScenarioFields
  | none => {}
  | some spec =>
      { name := some spec.name, requiredState := spec.requiredState, newState := spec.newState }

def fieldNames : List String := ["scenarioName", "requiredScenarioState", "newScenarioState"]

def read (record : Record) : Option ScenarioFields := do
  return {
    name := ← record.optional "scenarioName" Json.asString?
    requiredState := ← record.optional "requiredScenarioState" Json.asString?
    newState := ← record.optional "newScenarioState" Json.asString? }

def members (fields : ScenarioFields) : List (String × Option Json) :=
  [("scenarioName", fields.name.map .string),
    ("requiredScenarioState", fields.requiredState.map .string),
    ("newScenarioState", fields.newState.map .string)]

end ScenarioFields

end ServiceStub
