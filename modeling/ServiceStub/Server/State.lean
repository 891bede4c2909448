import ServiceStub.Server.Event
import ServiceStub.Server.Journal
import ServiceStub.Stub.Message
import ServiceStub.Stub.NearMiss
import ServiceStub.Stub.Resolution

namespace ServiceStub

/-- Stubs, scenarios, journals, open channels and listeners.  The default stubs are those that
are registered again when the server goes back to its defaults. -/
structure ServerState where
  stubs : StubStore HttpStub := {}
  messageStubs : StubStore MessageStub := {}
  scenarios : Scenarios := {}
  requests : Journal ServeEvent := {}
  messages : Journal MessageEvent := {}
  channels : Channels := {}
  listeners : List Listener := []
  nearMissLimit : Nat := NearMiss.defaultLimit
  defaults : List HttpStub := []

/-- A logged request that no stub matched, and the stubs that came closest. -/
structure UnmatchedRequest (R : Type) where
  request : Http.Request
  nearMisses : List (NearMiss HttpStub R)

inductive ServeOutcome (R : Type) where
  | matched (stub : HttpStub) (transition : Option Transition) (event : ServeEvent)
  | unmatched (nearMisses : List (NearMiss HttpStub R)) (event : ServeEvent)

def ServeOutcome.event {R : Type} : ServeOutcome R → ServeEvent
  | .matched _ _ event => event
  | .unmatched _ event => event

inductive MessageOutcome (R : Type) where
  | matched (stub : MessageStub) (deliveries : List Delivery) (transition : Option Transition)
      (event : MessageEvent)
  | unmatched (nearMisses : List (NearMiss MessageStub R)) (event : MessageEvent)

namespace ServerState

def ofLimits (journalLimit : Option Nat) (nearMissLimit : Nat) : ServerState :=
  { requests := { limit := journalLimit }, messages := { limit := journalLimit }, nearMissLimit }

def listen (state : ServerState) : ServerState :=
  { state with listeners := state.listeners ++ [{}] }

def notify (state : ServerState) (notification : Notification) : ServerState :=
  { state with
    listeners := state.listeners.map fun listener =>
      { listener with received := listener.received ++ [notification] } }

variable {S Input : Type} [Stub S Input]

def joinScenario (stub : S) (scenarios : Scenarios) : Scenarios :=
  match Stub.scenario stub with
  | none => scenarios
  | some spec => scenarios.addStub (Stub.id stub) spec

def leaveScenario (stub : S) (scenarios : Scenarios) : Scenarios :=
  match Stub.scenario stub with
  | none => scenarios
  | some spec => scenarios.removeStub (Stub.id stub) spec

def leaveScenarios (stubs : List S) (scenarios : Scenarios) : Scenarios :=
  stubs.foldl (fun scenarios stub => leaveScenario stub scenarios) scenarios

def setScenarioState (state : ServerState) (name value : String) :
    Except StateError ServerState := do
  return { state with scenarios := ← state.scenarios.setState name value }

def resetScenario (state : ServerState) (name : String) : Except StateError ServerState := do
  return { state with scenarios := ← state.scenarios.resetScenario name }

def resetScenarios (state : ServerState) : ServerState :=
  { state with scenarios := state.scenarios.reset }

def addStub (state : ServerState) (stub : HttpStub) : Except StateError ServerState := do
  return { state with
    stubs := ← state.stubs.add stub
    scenarios := joinScenario stub state.scenarios }

/-- Register a stub that is registered again when the server goes back to its defaults. -/
def addDefaultStub (state : ServerState) (stub : HttpStub) : Except StateError ServerState := do
  let stub := { stub with persistent := true }
  let state ← state.addStub stub
  return { state with defaults := state.defaults ++ [stub] }

/-- Put a stub in the place of the one with the same id.  A scenario that both versions take part
in keeps its state. -/
def replaceStub (state : ServerState) (stub : HttpStub) : Except StateError ServerState :=
  match state.stubs.find? stub.id with
  | none => .error (.stubNotFound stub.id)
  | some previous => do
      let stubs ← state.stubs.replace stub
      let scenarios := joinScenario stub state.scenarios
      let stays :=
        previous.scenario.map ScenarioSpec.name == stub.scenario.map ScenarioSpec.name
      return { state with
        stubs
        scenarios := if stays then scenarios else leaveScenario previous scenarios }

def readStub (state : ServerState) (id : Uuid) : Option HttpStub := state.stubs.find? id

def removeStubsWhere (state : ServerState) (condition : HttpStub → Bool) :
    List HttpStub × ServerState :=
  let (removed, stubs) := state.stubs.removeWhere condition
  (removed, { state with stubs, scenarios := leaveScenarios removed state.scenarios })

def removeStub (state : ServerState) (id : Uuid) : Except StateError (HttpStub × ServerState) :=
  match state.stubs.find? id with
  | none => .error (.stubNotFound id)
  | some stub => .ok (stub, (state.removeStubsWhere fun stub => stub.id == id).2)

def removeStubsMatching (state : ServerState) (pattern : RequestPattern) :
    List HttpStub × ServerState :=
  state.removeStubsWhere fun stub => stub.request == pattern

/-- Whether the metadata of a stub, as text, match a pattern exactly. -/
def metadataMatch (R : Type) [Scalar R] (now : Calendar.Instant) (pattern : Pattern)
    (stub : HttpStub) : Bool :=
  match stub.metadata with
  | none => false
  | some metadata => (pattern.evaluate now (some metadata.compact) : MatchResult R).isExact

def findStubsByMetadata (R : Type) [Scalar R] (now : Calendar.Instant) (state : ServerState)
    (pattern : Pattern) : List HttpStub :=
  state.stubs.toList.filter (metadataMatch R now pattern)

def removeStubsByMetadata (R : Type) [Scalar R] (now : Calendar.Instant) (state : ServerState)
    (pattern : Pattern) : List HttpStub × ServerState :=
  state.removeStubsWhere (metadataMatch R now pattern)

def resetStubs (state : ServerState) : ServerState :=
  (state.removeStubsWhere fun stub => !stub.persistent).2

def addMessageStub (state : ServerState) (stub : MessageStub) : Except StateError ServerState := do
  return { state with
    messageStubs := ← state.messageStubs.add stub
    scenarios := joinScenario stub state.scenarios }

def removeMessageStub (state : ServerState) (id : Uuid) :
    Except StateError (MessageStub × ServerState) :=
  match state.messageStubs.remove id with
  | (none, _) => .error (.stubNotFound id)
  | (some stub, messageStubs) =>
      .ok (stub, { state with messageStubs, scenarios := leaveScenario stub state.scenarios })

def resetMessageStubs (state : ServerState) : ServerState :=
  let (removed, messageStubs) := state.messageStubs.removeWhere fun _ => true
  { state with messageStubs, scenarios := leaveScenarios removed state.scenarios }

def clearRequests (state : ServerState) : ServerState :=
  { state with requests := state.requests.clear }

def clearJournals (state : ServerState) : ServerState :=
  { state with requests := state.requests.clear, messages := state.messages.clear }

/-- Remove all message stubs and all stubs that are not persistent, put the scenarios back into
their starting states and clear the journals. -/
def reset (state : ServerState) : ServerState :=
  state.resetStubs.resetMessageStubs.resetScenarios.clearJournals

/-- Register a default stub again, unless its id is taken. -/
def restoreDefault (state : ServerState) (stub : HttpStub) : ServerState :=
  match state.addStub stub with
  | .ok state => state
  | .error _ => state

/-- Remove everything and register the default stubs. -/
def resetToDefaults (state : ServerState) : ServerState :=
  let state := (state.removeStubsWhere fun _ => true).2.resetMessageStubs
  let state := { state with scenarios := {} }.clearJournals
  state.defaults.foldl restoreDefault state

variable {R : Type} [Scalar R]

def nearMissesForRequest (now : Calendar.Instant) (state : ServerState) (request : Http.Request) :
    List (NearMiss HttpStub R) :=
  state.stubs.nearMisses now state.nearMissLimit state.scenarios request

/-- Answer a request with the preferred stub, record the outcome and tell the listeners. -/
def serve (now : Calendar.Instant) (state : ServerState) (request : Http.Request) :
    ServeOutcome R × ServerState :=
  let record (event : ServeEvent) (scenarios : Scenarios) (notification : Notification) :=
    { state with scenarios, requests := state.requests.record event }.notify notification
  match (state.stubs.resolve now state.scenarios request :
      Option (Resolution HttpStub R) × Scenarios) with
  | (some resolution, scenarios) =>
      let stub := resolution.stub
      let event : ServeEvent :=
        { request, matched := some (stub.id, stub.response),
          subEvents := resolution.transition.toList.map SubEvent.ofTransition }
      (.matched stub resolution.transition event,
        record event scenarios (.stubMatched event stub.id))
  | (none, scenarios) =>
      let nearMisses := state.nearMissesForRequest now request
      let event : ServeEvent := { request, subEvents := [.notMatched nearMisses.length] }
      (.unmatched nearMisses event, record event scenarios (.requestUnmatched event))

def unmatchedRequests (state : ServerState) : List ServeEvent :=
  state.requests.entries.filter fun event => !event.wasMatched

def findRequests (R : Type) [Scalar R] (now : Calendar.Instant) (state : ServerState)
    (pattern : RequestPattern) : List ServeEvent :=
  state.requests.entries.filter fun event =>
    (pattern.evaluate now event.request : MatchReport R).isExact

def nearMissesForPattern (now : Calendar.Instant) (state : ServerState)
    (pattern : RequestPattern) : List (NearMiss Http.Request R) :=
  NearMiss.rank state.nearMissLimit <|
    state.requests.entries.map fun event =>
      { subject := event.request, report := pattern.evaluate now event.request }

def unmatchedNearMisses (now : Calendar.Instant) (state : ServerState) :
    List (UnmatchedRequest R) :=
  state.unmatchedRequests.map fun event =>
    { request := event.request, nearMisses := state.nearMissesForRequest now event.request }

def openChannel (state : ServerState) (channel : Channel) : ServerState :=
  { state with channels := state.channels.insert channel }

def closeChannel (state : ServerState) (id : Uuid) : Except StateError (Channel × ServerState) :=
  match state.channels.find? id with
  | none => .error (.channelNotFound id)
  | some channel => .ok (channel, { state with channels := state.channels.erase id })

/-- Answer a message with the preferred message stub, record the outcome and tell the
listeners. -/
def receiveMessage (now : Calendar.Instant) (state : ServerState) (id : Uuid) (body : Bytes) :
    Except StateError (MessageOutcome R × ServerState) :=
  let record (event : MessageEvent) (scenarios : Scenarios) (notification : Notification) :=
    { state with scenarios, messages := state.messages.record event }.notify notification
  match state.channels.find? id with
  | none => .error (.channelNotFound id)
  | some channel =>
      let message : ChannelMessage := { channel, body }
      match (state.messageStubs.resolve now state.scenarios message :
          Option (Resolution MessageStub R) × Scenarios) with
      | (some resolution, scenarios) =>
          let stub := resolution.stub
          let deliveries := Delivery.ofActions R now channel state.channels stub.actions
          let event : MessageEvent :=
            { channel := id, body := message.bodyText, stub := some stub.id,
              deliveries := deliveries.map Delivery.channel }
          .ok (.matched stub deliveries resolution.transition event,
            record event scenarios (.messageMatched event stub.id))
      | (none, scenarios) =>
          let nearMisses :=
            state.messageStubs.nearMisses now state.nearMissLimit state.scenarios message
          let event : MessageEvent := { channel := id, body := message.bodyText }
          .ok (.unmatched nearMisses event, record event scenarios (.messageUnmatched event))

end ServerState

end ServiceStub
