import ServiceStub.Http.Response
import ServiceStub.Scenario

namespace ServiceStub

inductive SubEventKind where
  | scenarioTransition
  | requestNotMatched
  deriving Repr, DecidableEq

def SubEventKind.name : SubEventKind → String
  | .scenarioTransition => "SCENARIO_TRANSITION"
  | .requestNotMatched => "REQUEST_NOT_MATCHED"

structure SubEvent where
  kind : SubEventKind
  message : String
  deriving Repr, DecidableEq

namespace SubEvent

def ofTransition (transition : Transition) : SubEvent :=
  { kind := .scenarioTransition, message := transition.message }

def notMatched (nearMissCount : Nat) : SubEvent :=
  { kind := .requestNotMatched
    message := "Request was not matched, " ++ toString nearMissCount ++ " near miss(es)" }

def toJson (event : SubEvent) : Json :=
  Json.record
    [("kind", some (.string event.kind.name)), ("message", some (.string event.message))]

end SubEvent

structure ServeEvent where
  request : Http.Request
  matched : Option (Uuid × Http.ResponseDefinition) := none
  subEvents : List SubEvent := []

namespace ServeEvent

def stub (event : ServeEvent) : Option Uuid := event.matched.map Prod.fst

def response (event : ServeEvent) : Option Http.ResponseDefinition := event.matched.map Prod.snd

def wasMatched (event : ServeEvent) : Bool := event.matched.isSome

def toJson (event : ServeEvent) : Json :=
  Json.record
    [("request", some event.request.toJson),
      ("stubId", some (.ofOption (fun id => .string id.toString) event.stub)),
      ("response", some (.ofOption Http.ResponseDefinition.toJson event.response)),
      ("subEvents", some (.array (event.subEvents.map SubEvent.toJson)))]

end ServeEvent

structure MessageEvent where
  channel : Uuid
  body : String
  stub : Option Uuid := none
  deliveries : List Uuid := []
  subEvents : List SubEvent := []
  deriving Repr, DecidableEq

def MessageEvent.wasMatched (event : MessageEvent) : Bool := event.stub.isSome

inductive Notification where
  | stubMatched (event : ServeEvent) (stub : Uuid)
  | requestUnmatched (event : ServeEvent)
  | messageMatched (event : MessageEvent) (stub : Uuid)
  | messageUnmatched (event : MessageEvent)

/-- A listener and what it was told, oldest first. -/
structure Listener where
  received : List Notification := []

end ServiceStub
