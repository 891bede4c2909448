import ServiceStub.Server.State

/-! Everything that can be asked of a server, as data. -/

namespace ServiceStub

inductive HttpOperation where
  | addStub (stub : HttpStub)
  | addDefaultStub (stub : HttpStub)
  | replaceStub (stub : HttpStub)
  | removeStub (id : Uuid)
  | removeStubsMatching (pattern : RequestPattern)
  | removeStubsByMetadata (now : Calendar.Instant) (pattern : Pattern)
  | resetStubs
  | reset
  | resetToDefaults
  | serve (now : Calendar.Instant) (request : Http.Request)
  | setScenarioState (name value : String)
  | resetScenario (name : String)
  | resetScenarios

inductive ServerOperation where
  | http (operation : HttpOperation)
  | addMessageStub (stub : MessageStub)
  | removeMessageStub (id : Uuid)
  | resetMessageStubs
  | receiveMessage (now : Calendar.Instant) (channel : Uuid) (body : Bytes)
  | openChannel (channel : Channel)
  | closeChannel (id : Uuid)
  | clearRequests
  | listen

def ServeOutcome.transition {R : Type} : ServeOutcome R → Option Transition
  | .matched _ transition _ => transition
  | .unmatched _ _ => none

namespace ServerState

variable (R : Type) [Scalar R]

/-- The server after an operation.  One that is refused changes nothing. -/
def performHttp (state : ServerState) : HttpOperation → ServerState
  | .addStub stub => (state.addStub stub).toOption.getD state
  | .addDefaultStub stub => (state.addDefaultStub stub).toOption.getD state
  | .replaceStub stub => (state.replaceStub stub).toOption.getD state
  | .removeStub id => ((state.removeStub id).map Prod.snd).toOption.getD state
  | .removeStubsMatching pattern => (state.removeStubsMatching pattern).2
  | .removeStubsByMetadata now pattern => (state.removeStubsByMetadata R now pattern).2
  | .resetStubs => state.resetStubs
  | .reset => state.reset
  | .resetToDefaults => state.resetToDefaults
  | .serve now request => (state.serve now request : ServeOutcome R × ServerState).2
  | .setScenarioState name value => (state.setScenarioState name value).toOption.getD state
  | .resetScenario name => (state.resetScenario name).toOption.getD state
  | .resetScenarios => state.resetScenarios

def perform (state : ServerState) : ServerOperation → ServerState
  | .http operation => state.performHttp R operation
  | .addMessageStub stub => (state.addMessageStub stub).toOption.getD state
  | .removeMessageStub id => ((state.removeMessageStub id).map Prod.snd).toOption.getD state
  | .resetMessageStubs => state.resetMessageStubs
  | .receiveMessage now channel body =>
      ((state.receiveMessage now channel body :
        Except StateError (MessageOutcome R × ServerState)).map Prod.snd).toOption.getD state
  | .openChannel channel => state.openChannel channel
  | .closeChannel id => ((state.closeChannel id).map Prod.snd).toOption.getD state
  | .clearRequests => state.clearRequests
  | .listen => state.listen

def run (state : ServerState) (history : List ServerOperation) : ServerState :=
  history.foldl (perform R) state

def runHttp (state : ServerState) (history : List HttpOperation) : ServerState :=
  history.foldl (performHttp R) state

end ServerState

end ServiceStub
