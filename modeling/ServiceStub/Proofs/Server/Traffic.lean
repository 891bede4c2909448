import ServiceStub.Proofs.Server.Likeness
import ServiceStub.Proofs.Server.Writes

/-!
What comes in at a server and how it is answered, and what every operation does to the journals,
the open channels and the listeners.
-/

namespace ServiceStub

def ServeOutcome.stub? {R : Type} : ServeOutcome R → Option HttpStub
  | .matched stub _ _ => some stub
  | .unmatched _ _ => none

namespace MessageOutcome

variable {R : Type}

def event : MessageOutcome R → MessageEvent
  | .matched _ _ _ event => event
  | .unmatched _ event => event

def stub? : MessageOutcome R → Option MessageStub
  | .matched stub _ _ _ => some stub
  | .unmatched _ _ => none

def deliveries : MessageOutcome R → List Delivery
  | .matched _ deliveries _ _ => deliveries
  | .unmatched _ _ => []

end MessageOutcome

inductive Exchange (R : Type) where
  | request (request : Http.Request) (outcome : ServeOutcome R)
  | message (channel : Uuid) (body : Bytes) (outcome : MessageOutcome R)

namespace Exchange

variable {R : Type}

def serveEvent? : Exchange R → Option ServeEvent
  | .request _ outcome => some outcome.event
  | .message _ _ _ => none

def messageEvent? : Exchange R → Option MessageEvent
  | .request _ _ => none
  | .message _ _ outcome => some outcome.event

def notification : Exchange R → Notification
  | .request _ (.matched stub _ event) => .stubMatched event stub.id
  | .request _ (.unmatched _ event) => .requestUnmatched event
  | .message _ _ (.matched stub _ _ event) => .messageMatched event stub.id
  | .message _ _ (.unmatched _ event) => .messageUnmatched event

end Exchange

structure Traffic where
  requests : Journal ServeEvent
  messages : Journal MessageEvent
  channels : Channels
  listeners : List Listener

namespace Traffic

variable {R : Type}

def log (traffic : Traffic) (exchange : Exchange R) : Traffic :=
  { traffic with
    requests := exchange.serveEvent?.elim traffic.requests traffic.requests.record
    messages := exchange.messageEvent?.elim traffic.messages traffic.messages.record
    listeners := traffic.listeners.map fun listener =>
      { listener with received := listener.received ++ [exchange.notification] } }

def clearJournals (traffic : Traffic) : Traffic :=
  { traffic with requests := traffic.requests.clear, messages := traffic.messages.clear }

/-- What an operation does when nothing comes in by it. -/
def adjust (traffic : Traffic) : ServerOperation → Traffic
  | .http .reset => traffic.clearJournals
  | .http .resetToDefaults => traffic.clearJournals
  | .clearRequests => { traffic with requests := traffic.requests.clear }
  | .openChannel channel => { traffic with channels := traffic.channels.insert channel }
  | .closeChannel id => { traffic with channels := traffic.channels.erase id }
  | .listen => { traffic with listeners := traffic.listeners ++ [{}] }
  | _ => traffic

theorem listeners_adjust (traffic : Traffic) {operation : ServerOperation}
    (other : operation ≠ .listen) : (traffic.adjust operation).listeners = traffic.listeners := by
  revert other
  fun_cases Traffic.adjust traffic operation
  all_goals simp [Traffic.clearJournals]

end Traffic

namespace ServerState

def traffic (state : ServerState) : Traffic :=
  { requests := state.requests, messages := state.messages, channels := state.channels,
    listeners := state.listeners }

section Exchanges

variable (R : Type) [Scalar R]

/-- What comes in by an operation.  A message on a channel that is not open does not come in. -/
def exchange? (state : ServerState) : ServerOperation → Option (Exchange R)
  | .http (.serve now request) => some (.request request (state.serve now request).1)
  | .receiveMessage now channel body =>
      match (state.receiveMessage now channel body :
          Except StateError (MessageOutcome R × ServerState)) with
      | .ok (outcome, _) => some (.message channel body outcome)
      | .error _ => none
  | _ => none

def exchanges (state : ServerState) : List ServerOperation → List (Exchange R)
  | [] => []
  | operation :: later =>
      (state.exchange? R operation).toList ++ exchanges (state.perform R operation) later

end Exchanges

variable {R : Type} [Scalar R] {state after : ServerState}

theorem exists_of_exchange? {operation : ServerOperation} {exchange : Exchange R}
    (came : state.exchange? R operation = some exchange) :
    (∃ now request, operation = .http (.serve now request) ∧
        exchange = .request request (state.serve now request).1) ∨
      ∃ now channel body outcome after, operation = .receiveMessage now channel body ∧
        state.receiveMessage now channel body = .ok (outcome, after) ∧
        exchange = .message channel body outcome := by
  revert came
  fun_cases exchange? R state operation with
  | case1 now request =>
      rintro ⟨⟩
      exact .inl ⟨now, request, rfl, rfl⟩
  | case2 now channel body outcome after received =>
      rintro ⟨⟩
      exact .inr ⟨now, channel, body, outcome, after, rfl, received, rfl⟩
  | case3 now channel body error refused => simp
  | case4 => simp

private theorem traffic_addStub {stub : HttpStub} (added : state.addStub stub = .ok after) :
    after.traffic = state.traffic := by
  obtain ⟨stubs, -, rfl⟩ := addStub_eq_ok_iff.mp added
  rfl

private theorem traffic_restoreDefaults (state : ServerState) (defaults : List HttpStub) :
    (defaults.foldl restoreDefault state).traffic = state.traffic := by
  induction defaults generalizing state with
  | nil => rfl
  | cons stub rest induction =>
      rw [List.foldl_cons, induction, restoreDefault_eq]
      exact getD_of_ok (·.traffic = state.traffic) rfl fun _ => traffic_addStub

private theorem traffic_serve (now : Calendar.Instant) (state : ServerState)
    (request : Http.Request) :
    (state.serve now request : ServeOutcome R × ServerState).2.traffic =
      state.traffic.log (.request request
        (state.serve now request : ServeOutcome R × ServerState).1) := by
  simp only [serve]
  split
  · rfl
  · rfl

theorem receiveMessage_of_closed {now : Calendar.Instant} {channel : Uuid} {body : Bytes}
    (closed : state.channels.find? channel = none) :
    (state.receiveMessage now channel body :
      Except StateError (MessageOutcome R × ServerState)) = .error (.channelNotFound channel) := by
  rw [receiveMessage, closed]

theorem exists_of_opened {now : Calendar.Instant} {channel : Uuid} {body : Bytes} {opened : Channel}
    (known : state.channels.find? channel = some opened) :
    ∃ (outcome : MessageOutcome R) (after : ServerState),
      state.receiveMessage now channel body = .ok (outcome, after) := by
  simp only [receiveMessage, known]
  split
  · exact ⟨_, _, rfl⟩
  · exact ⟨_, _, rfl⟩

/-- What an answered message leaves behind: the stub that answers it acts on the open channels, and
the event that is recorded names the stub and the channels. -/
structure Received (now : Calendar.Instant) (state : ServerState) (channel : Uuid) (body : Bytes)
    (outcome : MessageOutcome R) (after : ServerState) : Prop where
  opened : ∃ origin, state.channels.find? channel = some origin ∧
    outcome.deliveries = outcome.stub?.elim [] fun stub =>
      Delivery.ofActions R now origin state.channels stub.actions
  event : outcome.event =
    { channel, body := Text.ofBytesLossy body, stub := outcome.stub?.map MessageStub.id,
      deliveries := outcome.deliveries.map Delivery.channel }
  traffic : after.traffic = state.traffic.log (.message channel body outcome)

theorem received_of_ok {now : Calendar.Instant} {channel : Uuid} {body : Bytes}
    {outcome : MessageOutcome R}
    (received : state.receiveMessage now channel body = .ok (outcome, after)) :
    Received now state channel body outcome after := by
  simp only [receiveMessage] at received
  split at received
  · cases received
  · next origin known =>
      split at received
      · cases received
        exact ⟨⟨origin, known, rfl⟩, rfl, rfl⟩
      · cases received
        exact ⟨⟨origin, known, rfl⟩, rfl, rfl⟩

private theorem traffic_performHttp (state : ServerState) (operation : HttpOperation) :
    (state.performHttp R operation).traffic =
      (state.exchange? R (.http operation)).elim (state.traffic.adjust (.http operation))
        state.traffic.log := by
  have refused : state.traffic = state.traffic := rfl
  cases operation with
  | addStub stub =>
      exact getD_of_ok (·.traffic = state.traffic) refused fun _ => traffic_addStub
  | addDefaultStub stub =>
      refine getD_of_ok (·.traffic = state.traffic) refused fun after added => ?_
      obtain ⟨registered, stored, rfl⟩ := addDefaultStub_eq_ok_iff.mp added
      have same : registered.traffic = state.traffic := traffic_addStub stored
      exact same
  | replaceStub stub =>
      refine getD_of_ok (·.traffic = state.traffic) refused fun after replaced => ?_
      obtain ⟨previous, stubs, -, -, rfl⟩ := replaceStub_eq_ok_iff.mp replaced
      rfl
  | removeStub id =>
      refine getD_of_ok (·.traffic = state.traffic) refused fun after removed => ?_
      obtain ⟨stub, removed⟩ := map_snd_eq_ok removed
      obtain ⟨-, rfl⟩ := removeStub_eq_ok_iff.mp removed
      rfl
  | removeStubsMatching pattern => rfl
  | removeStubsByMetadata now pattern => rfl
  | resetStubs => rfl
  | reset => rfl
  | resetToDefaults =>
      rw [performHttp, resetToDefaults_eq, traffic_restoreDefaults]
      rfl
  | serve now request => exact traffic_serve now state request
  | setScenarioState name value =>
      refine getD_of_ok (·.traffic = state.traffic) refused fun after done => ?_
      obtain ⟨scenarios, -, rfl⟩ := setScenarioState_eq_ok_iff.mp done
      rfl
  | resetScenario name =>
      refine getD_of_ok (·.traffic = state.traffic) refused fun after done => ?_
      obtain ⟨scenarios, -, rfl⟩ := setScenarioState_eq_ok_iff.mp done
      rfl
  | resetScenarios => rfl

/-- What comes in is logged, and otherwise each operation does the little that `Traffic.adjust`
says. -/
theorem traffic_perform (state : ServerState) (operation : ServerOperation) :
    (state.perform R operation).traffic =
      (state.exchange? R operation).elim (state.traffic.adjust operation) state.traffic.log := by
  cases operation with
  | http operation => exact traffic_performHttp state operation
  | addMessageStub stub =>
      refine getD_of_ok (·.traffic = state.traffic) rfl fun after added => ?_
      obtain ⟨messageStubs, -, rfl⟩ := addMessageStub_eq_ok_iff.mp added
      rfl
  | removeMessageStub id =>
      refine getD_of_ok (·.traffic = state.traffic) rfl fun after removed => ?_
      obtain ⟨stub, removed⟩ := map_snd_eq_ok removed
      rw [removeMessageStub] at removed
      split at removed
      · cases removed
      · cases removed
        rfl
  | resetMessageStubs => rfl
  | receiveMessage now channel body =>
      rw [perform, exchange?]
      cases received : (state.receiveMessage now channel body :
          Except StateError (MessageOutcome R × ServerState)) with
      | error error => rfl
      | ok pair => exact (received_of_ok received).traffic
  | openChannel channel => rfl
  | closeChannel id =>
      rw [perform, closeChannel]
      cases found : state.channels.find? id with
      | none =>
          have kept := Channels.erase_of_absent found
          show state.traffic = { state.traffic with channels := state.channels.erase id }
          rw [kept]
          rfl
      | some channel => rfl
  | clearRequests => rfl
  | listen => rfl

theorem run_cons (state : ServerState) (operation : ServerOperation)
    (later : List ServerOperation) :
    state.run R (operation :: later) = (state.perform R operation).run R later :=
  rfl

theorem run_append (state : ServerState) (earlier later : List ServerOperation) :
    state.run R (earlier ++ later) = (state.run R earlier).run R later :=
  List.foldl_append

end ServerState

end ServiceStub
