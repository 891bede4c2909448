import ServiceStub.Proofs.Server.Parts

/-! What every operation on a server keeps, and the change that it makes to the parts of stubs. -/

namespace ServiceStub.ServerState

variable {R : Type} [Scalar R] {state after : ServerState}

theorem getD_of_ok (property : ServerState → Prop) {outcome : Except StateError ServerState}
    (refused : property state) (done : ∀ after, outcome = .ok after → property after) :
    property (outcome.toOption.getD state) := by
  cases performed : outcome with
  | error _ => exact refused
  | ok after => exact done after performed

theorem map_snd_eq_ok {Answer : Type} {outcome : Except StateError (Answer × ServerState)}
    (done : outcome.map Prod.snd = .ok after) : ∃ answer, outcome = .ok (answer, after) := by
  cases performed : outcome with
  | error _ => simp [performed, Except.map] at done
  | ok pair =>
      rw [performed] at done
      exact ⟨pair.1, by rw [← Except.ok.inj done]⟩

theorem setScenarioState_eq_ok_iff {name value : String} :
    state.setScenarioState name value = .ok after ↔
      ∃ scenarios, state.scenarios.setState name value = .ok scenarios ∧
        after = { state with scenarios } := by
  simp only [setScenarioState]
  cases done : state.scenarios.setState name value with
  | error _ => simp [bind, Except.bind]
  | ok scenarios => simp [bind, Except.bind, pure, Except.pure, eq_comm]

def emptied (state : ServerState) : ServerState :=
  { (state.removeStubsWhere fun _ => true).2.resetMessageStubs with
    scenarios := {} }.clearJournals

theorem resetToDefaults_eq (state : ServerState) :
    state.resetToDefaults = state.defaults.foldl restoreDefault state.emptied :=
  rfl

theorem emptied_stubs (state : ServerState) : state.emptied.stubs.toList = [] := by
  have gone := StubStore.toList_removeWhere state.stubs fun _ => true
  rwa [Bool.not_true, List.filter_false] at gone

theorem emptied_messageStubs (state : ServerState) : state.emptied.messageStubs.toList = [] := by
  have gone := StubStore.toList_removeWhere state.messageStubs fun _ => true
  rwa [Bool.not_true, List.filter_false] at gone

/-- A stub that answers makes its move in the scenarios, and nothing else happens to them. -/
theorem serve_moves (now : Calendar.Instant) (state : ServerState) (request : Http.Request) :
    ∃ declared : Option ScenarioSpec,
      (∀ spec, declared = some spec → ∃ stub ∈ state.stubs.toList, Stub.scenario stub = some spec) ∧
        (state.serve now request : ServeOutcome R × ServerState).1.transition =
          (state.scenarios.move declared).1 ∧
        (state.serve now request : ServeOutcome R × ServerState).2.scenarios =
          (state.scenarios.move declared).2 := by
  rcases StubStore.resolve_cases (R := R) now state.stubs state.scenarios request with
    nobody | ⟨resolution, chosen, registered, transition⟩
  · refine ⟨none, by simp, ?_, ?_⟩
    · rw [serve, nobody]
      rfl
    · rw [serve, nobody]
      rfl
  · refine ⟨Stub.scenario resolution.stub, fun spec declared => ⟨_, registered, declared⟩, ?_, ?_⟩
    · rw [serve, chosen]
      exact transition
    · rw [serve, chosen]
      rfl

theorem serve_stores (now : Calendar.Instant) (state : ServerState) (request : Http.Request) :
    (state.serve now request : ServeOutcome R × ServerState).2.stubs = state.stubs ∧
      (state.serve now request : ServeOutcome R × ServerState).2.messageStubs =
        state.messageStubs := by
  simp only [serve]
  split <;> exact ⟨rfl, rfl⟩

private theorem receiveMessage_moves {now : Calendar.Instant} {channel : Uuid} {body : Bytes}
    {outcome : MessageOutcome R}
    (received : state.receiveMessage now channel body = .ok (outcome, after)) :
    after.stubs = state.stubs ∧ after.messageStubs = state.messageStubs ∧
      ∃ declared : Option ScenarioSpec, after.scenarios = (state.scenarios.move declared).2 := by
  simp only [receiveMessage] at received
  split at received
  · simp at received
  · next opened _ =>
      rcases StubStore.resolve_cases (R := R) now state.messageStubs state.scenarios
        { channel := opened, body } with nobody | ⟨resolution, chosen, -, -⟩
      · rw [nobody] at received
        obtain ⟨-, rfl⟩ := Prod.mk.inj (Except.ok.inj received)
        exact ⟨rfl, rfl, none, rfl⟩
      · rw [chosen] at received
        obtain ⟨-, rfl⟩ := Prod.mk.inj (Except.ok.inj received)
        exact ⟨rfl, rfl, Stub.scenario resolution.stub, rfl⟩

theorem closeChannel_eq_ok {id : Uuid} {channel : Channel}
    (closed : state.closeChannel id = .ok (channel, after)) :
    ∃ channels, after = { state with channels } := by
  rw [closeChannel] at closed
  split at closed
  · simp at closed
  · obtain ⟨-, rfl⟩ := Prod.mk.inj (Except.ok.inj closed)
    exact ⟨_, rfl⟩

namespace Numbered

theorem ofLimits (journalLimit : Option Nat) (nearMissLimit : Nat) :
    (ofLimits journalLimit nearMissLimit).Numbered :=
  ⟨.empty, .empty⟩

theorem addStub (numbered : state.Numbered) {stub : HttpStub}
    (added : state.addStub stub = .ok after) : after.Numbered := by
  obtain ⟨stubs, stored, rfl⟩ := addStub_eq_ok_iff.mp added
  exact ⟨numbered.stubs.add stored, numbered.messageStubs⟩

theorem removeStubsWhere (numbered : state.Numbered) (condition : HttpStub → Bool) :
    (state.removeStubsWhere condition).2.Numbered :=
  ⟨numbered.stubs.removeWhere condition, numbered.messageStubs⟩

theorem withoutMessageStubs (numbered : state.Numbered) (condition : MessageStub → Bool) :
    (state.withoutMessageStubs condition).Numbered :=
  ⟨numbered.stubs, numbered.messageStubs.removeWhere condition⟩

theorem emptied (numbered : state.Numbered) : state.emptied.Numbered :=
  ⟨numbered.stubs.removeWhere fun _ => true, numbered.messageStubs.removeWhere fun _ => true⟩

theorem restoreDefaults (numbered : state.Numbered) (defaults : List HttpStub) :
    (defaults.foldl restoreDefault state).Numbered := by
  induction defaults generalizing state with
  | nil => exact numbered
  | cons stub rest induction =>
      refine induction ?_
      rw [restoreDefault]
      split
      · next after added => exact numbered.addStub added
      · exact numbered

theorem performHttp (numbered : state.Numbered) (operation : HttpOperation) :
    (state.performHttp R operation).Numbered := by
  cases operation with
  | addStub stub => exact getD_of_ok ServerState.Numbered numbered fun _ => numbered.addStub
  | addDefaultStub stub =>
      refine getD_of_ok ServerState.Numbered numbered fun after added => ?_
      obtain ⟨registered, stored, rfl⟩ := addDefaultStub_eq_ok_iff.mp added
      have known := numbered.addStub stored
      exact ⟨known.stubs, known.messageStubs⟩
  | replaceStub stub =>
      refine getD_of_ok ServerState.Numbered numbered fun after replaced => ?_
      obtain ⟨previous, stubs, -, stored, rfl⟩ := replaceStub_eq_ok_iff.mp replaced
      exact ⟨numbered.stubs.replace stored, numbered.messageStubs⟩
  | removeStub id =>
      refine getD_of_ok ServerState.Numbered numbered fun after removed => ?_
      obtain ⟨stub, removed⟩ := map_snd_eq_ok removed
      obtain ⟨-, rfl⟩ := removeStub_eq_ok_iff.mp removed
      exact numbered.removeStubsWhere _
  | removeStubsMatching pattern => exact numbered.removeStubsWhere _
  | removeStubsByMetadata now pattern => exact numbered.removeStubsWhere _
  | resetStubs => exact numbered.removeStubsWhere _
  | reset =>
      have left := (numbered.removeStubsWhere fun stub => !stub.persistent).withoutMessageStubs
        fun _ => true
      exact ⟨left.stubs, left.messageStubs⟩
  | resetToDefaults =>
      rw [ServerState.performHttp, resetToDefaults_eq]
      exact numbered.emptied.restoreDefaults _
  | serve now request =>
      have stores := serve_stores (R := R) now state request
      exact ⟨stores.1 ▸ numbered.stubs, stores.2 ▸ numbered.messageStubs⟩
  | setScenarioState name value =>
      refine getD_of_ok ServerState.Numbered numbered fun after done => ?_
      obtain ⟨scenarios, -, rfl⟩ := setScenarioState_eq_ok_iff.mp done
      exact ⟨numbered.stubs, numbered.messageStubs⟩
  | resetScenario name =>
      refine getD_of_ok ServerState.Numbered numbered fun after done => ?_
      obtain ⟨scenarios, -, rfl⟩ := setScenarioState_eq_ok_iff.mp done
      exact ⟨numbered.stubs, numbered.messageStubs⟩
  | resetScenarios => exact ⟨numbered.stubs, numbered.messageStubs⟩

theorem perform (numbered : state.Numbered) (operation : ServerOperation) :
    (state.perform R operation).Numbered := by
  cases operation with
  | http operation => exact numbered.performHttp operation
  | addMessageStub stub =>
      refine getD_of_ok ServerState.Numbered numbered fun after added => ?_
      obtain ⟨messageStubs, stored, rfl⟩ := addMessageStub_eq_ok_iff.mp added
      exact ⟨numbered.stubs, numbered.messageStubs.add stored⟩
  | removeMessageStub id =>
      refine getD_of_ok ServerState.Numbered numbered fun after removed => ?_
      obtain ⟨stub, removed⟩ := map_snd_eq_ok removed
      obtain ⟨-, rfl⟩ := (removeMessageStub_eq_ok_iff numbered).mp removed
      exact numbered.withoutMessageStubs _
  | resetMessageStubs => exact numbered.withoutMessageStubs fun _ => true
  | receiveMessage now channel body =>
      refine getD_of_ok ServerState.Numbered numbered fun after received => ?_
      obtain ⟨outcome, received⟩ := map_snd_eq_ok received
      obtain ⟨stubs, messageStubs, -⟩ := receiveMessage_moves received
      exact ⟨stubs ▸ numbered.stubs, messageStubs ▸ numbered.messageStubs⟩
  | openChannel channel => exact ⟨numbered.stubs, numbered.messageStubs⟩
  | closeChannel id =>
      refine getD_of_ok ServerState.Numbered numbered fun after closed => ?_
      obtain ⟨channel, closed⟩ := map_snd_eq_ok closed
      obtain ⟨scenarios, rfl⟩ := closeChannel_eq_ok closed
      exact ⟨numbered.stubs, numbered.messageStubs⟩
  | clearRequests => exact ⟨numbered.stubs, numbered.messageStubs⟩
  | listen => exact ⟨numbered.stubs, numbered.messageStubs⟩

end Numbered

private theorem partChange_setScenarioState {scenarioName value : String}
    (done : state.setScenarioState scenarioName value = .ok after) (name : String) (id : Uuid) :
    PartChangeAt state after name id := by
  obtain ⟨scenarios, moved, rfl⟩ := setScenarioState_eq_ok_iff.mp done
  exact .of_members rfl rfl (Scenarios.member?_setState moved name id)

/-- Going back to the defaults is left out, since there a stub may leave and join in one step. -/
theorem partChange_performHttp (numbered : state.Numbered) {operation : HttpOperation}
    (ordinary : operation ≠ .resetToDefaults) (name : String) (id : Uuid) :
    PartChangeAt state (state.performHttp R operation) name id := by
  have refused : PartChangeAt state state name id := .of_members rfl rfl rfl
  cases operation with
  | addStub stub =>
      exact getD_of_ok (PartChangeAt state · name id) refused fun _ added =>
        partChange_addStub added name id
  | addDefaultStub stub =>
      refine getD_of_ok (PartChangeAt state · name id) refused fun after added => ?_
      obtain ⟨registered, stored, rfl⟩ := addDefaultStub_eq_ok_iff.mp added
      exact partChange_addStub stored name id
  | replaceStub stub =>
      exact getD_of_ok (PartChangeAt state · name id) refused fun _ replaced =>
        partChange_replaceStub numbered replaced name id
  | removeStub removedId =>
      refine getD_of_ok (PartChangeAt state · name id) refused fun after removed => ?_
      obtain ⟨stub, removed⟩ := map_snd_eq_ok removed
      obtain ⟨-, rfl⟩ := removeStub_eq_ok_iff.mp removed
      exact partChange_removeStubsWhere numbered _ _ _
  | removeStubsMatching pattern => exact partChange_removeStubsWhere numbered _ _ _
  | removeStubsByMetadata now pattern => exact partChange_removeStubsWhere numbered _ _ _
  | resetStubs => exact partChange_removeStubsWhere numbered _ _ _
  | reset => exact partChange_reset numbered name id
  | resetToDefaults => exact absurd rfl ordinary
  | serve now request =>
      have stores := serve_stores (R := R) now state request
      obtain ⟨declared, -, -, moved⟩ := serve_moves (R := R) now state request
      exact .of_members stores.1 stores.2 (moved ▸ Scenarios.member?_move ..)
  | setScenarioState scenario value =>
      exact getD_of_ok (PartChangeAt state · name id) refused fun _ done =>
        partChange_setScenarioState done _ _
  | resetScenario scenario =>
      exact getD_of_ok (PartChangeAt state · name id) refused fun _ done =>
        partChange_setScenarioState done _ _
  | resetScenarios => exact .of_members rfl rfl (Scenarios.member?_reset ..)

theorem partChange_perform (numbered : state.Numbered) {operation : ServerOperation}
    (ordinary : operation ≠ .http .resetToDefaults) (name : String) (id : Uuid) :
    PartChangeAt state (state.perform R operation) name id := by
  have refused : PartChangeAt state state name id := .of_members rfl rfl rfl
  cases operation with
  | http operation =>
      exact partChange_performHttp numbered (fun same => ordinary (congrArg _ same)) name id
  | addMessageStub stub =>
      exact getD_of_ok (PartChangeAt state · name id) refused fun _ added =>
        partChange_addMessageStub added name id
  | removeMessageStub removedId =>
      refine getD_of_ok (PartChangeAt state · name id) refused fun after removed => ?_
      obtain ⟨stub, removed⟩ := map_snd_eq_ok removed
      obtain ⟨-, rfl⟩ := (removeMessageStub_eq_ok_iff numbered).mp removed
      exact partChange_withoutMessageStubs numbered _ _ _
  | resetMessageStubs => exact partChange_withoutMessageStubs numbered (fun _ => true) name id
  | receiveMessage now channel body =>
      refine getD_of_ok (PartChangeAt state · name id) refused fun after received => ?_
      obtain ⟨outcome, received⟩ := map_snd_eq_ok received
      obtain ⟨stubs, messageStubs, declared, moved⟩ := receiveMessage_moves received
      exact .of_members stubs messageStubs (moved ▸ Scenarios.member?_move ..)
  | openChannel channel => exact .of_members rfl rfl rfl
  | closeChannel closedId =>
      refine getD_of_ok (PartChangeAt state · name id) refused fun after closed => ?_
      obtain ⟨channel, closed⟩ := map_snd_eq_ok closed
      obtain ⟨channels, rfl⟩ := closeChannel_eq_ok closed
      exact .of_members rfl rfl rfl
  | clearRequests => exact .of_members rfl rfl rfl
  | listen => exact .of_members rfl rfl rfl

end ServiceStub.ServerState
