import ServiceStub.Admin.Route
import ServiceStub.Report.Json
import ServiceStub.Server.State

namespace ServiceStub

inductive AdminFault where
  | unreadableBody
  | badParameter
  | refused (error : StateError)
  deriving Repr, DecidableEq

namespace AdminFault

def message : AdminFault → String
  | .unreadableBody => "cannot deserialize request body: not of the expected shape"
  | .badParameter => "URL parameter format is invalid: not an id"
  | .refused error => "cannot modify state: " ++ error.message

def status : AdminFault → Nat
  | .refused (.stubNotFound _) => 404
  | .refused (.scenarioNotFound _) => 404
  | .refused (.channelNotFound _) => 404
  | .refused (.duplicateStub _) => 409
  | _ => 400

def ofState {α : Type} : Except StateError α → Except AdminFault α
  | .ok value => .ok value
  | .error error => .error (.refused error)

def ofPattern {α : Type} : Except PatternError α → Except AdminFault α
  | .ok value => .ok value
  | .error error => .error (.refused (.ofPattern error))

end AdminFault

structure AdminAnswer where
  status : Nat
  body : Option Json := none

namespace AdminAnswer

def toResponse (answer : AdminAnswer) : Http.Response :=
  match answer.body with
  | none => { status := answer.status, headers := [], body := [] }
  | some document =>
      { status := answer.status, headers := [("content-type", "application/json")]
        body := Text.toBytes document.compact }

def ofMessage (status : Nat) (message : String) : AdminAnswer :=
  { status, body := some (Json.record [("message", some (.string message))]) }

def ofFault (fault : AdminFault) : AdminAnswer := .ofMessage fault.status fault.message

end AdminAnswer

/-- A request of the administration, with the time it is handled at and an id for what it may
create. -/
structure AdminRequest where
  now : Calendar.Instant
  fresh : Uuid
  method : String
  body : Bytes

abbrev AdminResult := Except AdminFault (AdminAnswer × ServerState)

namespace AdminRequest

def readBody {α : Type} (request : AdminRequest) (read : Json → Option α) :
    Except AdminFault α :=
  match ((Text.ofBytes? request.body).bind Json.parseWritten).bind read with
  | some value => .ok value
  | none => .error .unreadableBody

def readId (text : String) : Except AdminFault Uuid :=
  match Uuid.ofString? text with
  | some id => .ok id
  | none => .error .badParameter

def readRequestPattern (request : AdminRequest) : Except AdminFault RequestPattern := do
  AdminFault.ofPattern (← request.readBody RequestDefinition.ofJson).compile

def readPattern (request : AdminRequest) : Except AdminFault Pattern := do
  AdminFault.ofPattern (← request.readBody PatternDefinition.ofJson).compile

/-- The state that a scenario is put into; none stands for the starting state. -/
def readScenarioState (request : AdminRequest) : Except AdminFault (Option String) :=
  if request.body.isEmpty then .ok none
  else
    request.readBody fun document =>
      (Record.ofJson ["state"] document).bind fun record =>
        record.optional "state" Json.asString?

def shown (state : ServerState) (document : Json) : AdminResult :=
  .ok ({ status := 200, body := some document }, state)

def listed (state : ServerState) (items : List Json) : AdminResult :=
  shown state <|
    Json.record [("items", some (.array items)), ("total", some (.ofNat items.length))]

def created (state : ServerState) (document : Json) : AdminResult :=
  .ok ({ status := 201, body := some document }, state)

def done (state : ServerState) : AdminResult := .ok ({ status := 204 }, state)

def stubMissJson : NearMiss HttpStub Float → Json :=
  NearMiss.toJson .shortest "stub" HttpStub.toJson

def requestMissJson : NearMiss Http.Request Float → Json :=
  NearMiss.toJson .shortest "request" Http.Request.toJson

def unmatchedJson (unmatched : UnmatchedRequest Float) : Json :=
  Json.record
    [("request", some unmatched.request.toJson),
      ("nearMisses", some (.array (unmatched.nearMisses.map stubMissJson)))]

def outcomeJson : MessageOutcome Float → Json
  | .matched stub deliveries _ _ =>
      Json.record
        [("matched", some (.bool true)), ("stubId", some (.string stub.id.toString)),
          ("deliveries", some (.array (deliveries.map Delivery.toJson)))]
  | .unmatched _ _ =>
      Json.record [("matched", some (.bool false)), ("deliveries", some (.array []))]

def readMapping (state : ServerState) (id : String) : AdminResult := do
  let id ← readId id
  match state.readStub id with
  | some stub => shown state stub.toJson
  | none => .error (.refused (.stubNotFound id))

def addMapping (request : AdminRequest) (state : ServerState) : AdminResult := do
  let definition ← request.readBody HttpStubDefinition.ofJson
  let stub ← AdminFault.ofState (definition.compile request.fresh)
  created (← AdminFault.ofState (state.addStub stub)) stub.toJson

/-- Replace a mapping; it keeps its id whatever the definition says. -/
def replaceMapping (request : AdminRequest) (state : ServerState) (id : String) : AdminResult := do
  let id ← readId id
  let definition ← request.readBody HttpStubDefinition.ofJson
  let stub ← AdminFault.ofState (definition.compile request.fresh)
  let stub := { stub with id }
  shown (← AdminFault.ofState (state.replaceStub stub)) stub.toJson

def removeMapping (state : ServerState) (id : String) : AdminResult := do
  let id ← readId id
  let (_, state) ← AdminFault.ofState (state.removeStub id)
  done state

def setScenario (request : AdminRequest) (state : ServerState) (name : String) : AdminResult := do
  match ← request.readScenarioState with
  | some value => done (← AdminFault.ofState (state.setScenarioState name value))
  | none => done (← AdminFault.ofState (state.resetScenario name))

def addMessageMapping (request : AdminRequest) (state : ServerState) : AdminResult := do
  let definition ← request.readBody MessageStubDefinition.ofJson
  let stub ← AdminFault.ofState (definition.compile request.fresh)
  created (← AdminFault.ofState (state.addMessageStub stub)) stub.toJson

def removeMessageMapping (state : ServerState) (id : String) : AdminResult := do
  let id ← readId id
  let (_, state) ← AdminFault.ofState (state.removeMessageStub id)
  done state

def openChannel (request : AdminRequest) (state : ServerState) : AdminResult := do
  let channel : Channel :=
    { id := request.fresh, request := ← request.readBody Http.Request.ofJson }
  created (state.openChannel channel) channel.toJson

def closeChannel (state : ServerState) (id : String) : AdminResult := do
  let id ← readId id
  let (_, state) ← AdminFault.ofState (state.closeChannel id)
  done state

def receiveMessage (request : AdminRequest) (state : ServerState) (id : String) : AdminResult := do
  let id ← readId id
  let (outcome, state) ← AdminFault.ofState (state.receiveMessage request.now id request.body)
  shown state (outcomeJson outcome)

/-- Handle a request to a route; `none` if the route does not know the method. -/
def handle (request : AdminRequest) (state : ServerState) (route : AdminRoute) :
    Option AdminResult :=
  match route, request.method with
  | .ping, "GET" => some (.ok ({ status := 200 }, state))
  | .reset, "POST" => some (done state.reset)
  | .mappings, "GET" => some (listed state (state.stubs.toList.map HttpStub.toJson))
  | .mappings, "POST" => some (request.addMapping state)
  | .mappings, "DELETE" => some (done state.resetStubs)
  | .mappingsReset, "POST" => some (done state.resetToDefaults)
  | .mappingsRemove, "POST" => some do
      let (removed, state) := state.removeStubsMatching (← request.readRequestPattern)
      listed state (removed.map HttpStub.toJson)
  | .mappingsFindByMetadata, "POST" => some do
      let found := state.findStubsByMetadata Float request.now (← request.readPattern)
      listed state (found.map HttpStub.toJson)
  | .mappingsRemoveByMetadata, "POST" => some do
      let (removed, state) :=
        state.removeStubsByMetadata Float request.now (← request.readPattern)
      listed state (removed.map HttpStub.toJson)
  | .mapping id, "GET" => some (readMapping state id)
  | .mapping id, "PUT" => some (request.replaceMapping state id)
  | .mapping id, "DELETE" => some (removeMapping state id)
  | .scenarios, "GET" => some (listed state (state.scenarios.all.map Scenario.toJson))
  | .scenariosReset, "POST" => some (done state.resetScenarios)
  | .scenarioState name, "PUT" => some (request.setScenario state name)
  | .requests, "GET" => some (listed state (state.requests.entries.map ServeEvent.toJson))
  | .requests, "DELETE" => some (done state.clearRequests)
  | .requestsFind, "POST" => some do
      let found := state.findRequests Float request.now (← request.readRequestPattern)
      listed state (found.map ServeEvent.toJson)
  | .requestsCount, "POST" => some do
      let found := state.findRequests Float request.now (← request.readRequestPattern)
      shown state (Json.record [("count", some (.ofNat found.length))])
  | .requestsUnmatched, "GET" =>
      some (listed state (state.unmatchedRequests.map ServeEvent.toJson))
  | .requestsUnmatchedNearMisses, "GET" =>
      some (listed state ((state.unmatchedNearMisses request.now).map unmatchedJson))
  | .nearMissesForRequest, "POST" => some do
      let near := state.nearMissesForRequest request.now (← request.readBody Http.Request.ofJson)
      listed state (near.map stubMissJson)
  | .nearMissesForPattern, "POST" => some do
      let near := state.nearMissesForPattern request.now (← request.readRequestPattern)
      listed state (near.map requestMissJson)
  | .messageMappings, "GET" =>
      some (listed state (state.messageStubs.toList.map MessageStub.toJson))
  | .messageMappings, "POST" => some (request.addMessageMapping state)
  | .messageMappings, "DELETE" => some (done state.resetMessageStubs)
  | .messageMapping id, "DELETE" => some (removeMessageMapping state id)
  | .channels, "GET" => some (listed state (state.channels.toList.map Channel.toJson))
  | .channels, "POST" => some (request.openChannel state)
  | .channel id, "DELETE" => some (closeChannel state id)
  | .channelMessages id, "POST" => some (request.receiveMessage state id)
  | _, _ => none

end AdminRequest

end ServiceStub
