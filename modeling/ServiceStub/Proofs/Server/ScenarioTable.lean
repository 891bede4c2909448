import ServiceStub.Proofs.Scenario.Listing
import ServiceStub.Proofs.Server.Steps

/-!
The scenarios of a server that has no message stubs are those that its stubs declare, and the state
of each is the last one that the history has given to it.
-/

namespace ServiceStub.ServerState

variable {R : Type} [Scalar R] {state after : ServerState} {name : String}

def declares (state : ServerState) (name : String) : Bool :=
  state.stubs.toList.any fun stub => stub.scenario.map ScenarioSpec.name == some name

/-- The state that an operation gives to a scenario: a match may move it, it may be put into a
state, and a reset puts it back into the starting one. -/
def given (R : Type) [Scalar R] (state : ServerState) (name : String) :
    HttpOperation → Option String
  | .serve now request =>
      let outcome : ServeOutcome R := (state.serve now request).1
      (outcome.transition.filter fun transition => transition.scenario == name).map
        Transition.after
  | .setScenarioState other value => if other = name then some value else none
  | .resetScenario other => if other = name then some Scenario.started else none
  | .resetScenarios | .reset | .resetToDefaults => some Scenario.started
  | _ => none

/-- The states that a history gives to a scenario, the oldest first.  Those from before a moment
at which no stub declares the scenario are forgotten. -/
def givenStates (R : Type) [Scalar R] (state : ServerState) (name : String)
    (states : List String) : List HttpOperation → List String
  | [] => states
  | operation :: rest =>
      let after := state.performHttp R operation
      let states := states ++ (state.given R name operation).toList
      givenStates R after name (if after.declares name then states else []) rest

/-- What the scenarios are made of after a history. -/
structure Derived (R : Type) [Scalar R] (initial : ServerState) (history : List HttpOperation)
    (after : ServerState) : Prop where
  names_ascending : (after.scenarios.all.map Scenario.name).Pairwise (· < ·)
  mem_names_iff : ∀ name, name ∈ after.scenarios.all.map Scenario.name ↔ after.declares name
  stubs_ascending : ∀ scenario ∈ after.scenarios.all, scenario.stubs.Pairwise (· < ·)
  mem_stubs_iff : ∀ scenario ∈ after.scenarios.all, ∀ id,
    id ∈ scenario.stubs ↔ after.stubs.Declares scenario.name id
  possibleStates_ascending : ∀ scenario ∈ after.scenarios.all,
    scenario.possibleStates.Pairwise (· < ·)
  mem_possibleStates_iff : ∀ scenario ∈ after.scenarios.all, ∀ value,
    value ∈ scenario.possibleStates ↔
      value = Scenario.started ∨
        ∃ stub ∈ after.stubs.toList, ∃ spec, stub.scenario = some spec ∧
          spec.name = scenario.name ∧
          (spec.requiredState = some value ∨ spec.newState = some value)
  state_eq : ∀ scenario ∈ after.scenarios.all,
    scenario.state =
      (initial.givenStates R scenario.name [] history).getLastD Scenario.started

structure Reflects (state : ServerState) : Prop where
  numbered : state.Numbered
  occupied : state.scenarios.Occupied
  members : ∀ name id, state.scenarios.member? name id = state.stubs.member? name id
  noMessages : state.messageStubs.toList = []

theorem declares_iff (numbered : state.Numbered) :
    state.declares name ↔ ∃ id, (state.stubs.member? name id).isSome := by
  simp only [declares, List.any_eq_true, beq_iff_eq, numbered.stubs.member?_isSome_iff,
    Stub.partIn_isSome_iff]
  constructor
  · rintro ⟨stub, registered, declared⟩
    exact ⟨Stub.id stub, stub, registered, rfl, declared⟩
  · rintro ⟨-, stub, registered, -, declared⟩
    exact ⟨stub, registered, declared⟩

private theorem Reflects.declares_iff_isSome (reflects : state.Reflects) :
    state.declares name ↔ (state.scenarios.find? name).isSome := by
  rw [declares_iff reflects.numbered]
  simp only [← reflects.members]
  constructor
  · rintro ⟨id, joined⟩
    rw [Scenarios.find?_of_member? joined]
    rfl
  · exact reflects.occupied name

private theorem Reflects.stateOf_of_not_declares (reflects : state.Reflects)
    (undeclared : ¬ state.declares name) : state.scenarios.stateOf name = Scenario.started := by
  rw [reflects.declares_iff_isSome, Option.not_isSome_iff_eq_none] at undeclared
  rw [Scenarios.stateOf, Scenarios.entry, undeclared]
  rfl

theorem Reflects.step (reflects : state.Reflects) (numbered : after.Numbered)
    (occupied : after.scenarios.Occupied)
    (change : ∀ name id, PartChangeAt state after name id)
    (noMessages : after.messageStubs.toList = []) : after.Reflects := by
  have nobody {store : StubStore MessageStub} (empty : store.toList = []) (name : String)
      (id : Uuid) : store.member? name id = none :=
    StubStore.member?_eq_none (by simp [StubStore.ids, empty])
  refine ⟨numbered, occupied, fun name id => ?_, noMessages⟩
  have agree := reflects.members name id
  cases change name id with
  | kept httpKept messageKept tableKept => rw [tableKept, httpKept, agree]
  | httpJoined joins listed messageKept => exact listed
  | messageJoined joins listed httpKept => simp [nobody noMessages] at joins
  | left gone unlisted httpRest messageRest =>
      rcases gone with ⟨-, left⟩ | ⟨wasThere, -⟩
      · rw [unlisted, left]
      · simp [nobody reflects.noMessages] at wasThere

private theorem occupied_replaceInScenarios {scenarios : Scenarios} (occupied : scenarios.Occupied)
    (previous stub : HttpStub) : (replaceInScenarios previous stub scenarios).Occupied := by
  rw [replaceInScenarios]
  split
  · exact occupied_joinScenario occupied stub
  · exact occupied_leaveScenario (occupied_joinScenario occupied stub) previous

theorem Reflects.addStub (reflects : state.Reflects) {stub : HttpStub}
    (added : state.addStub stub = .ok after) : after.Reflects := by
  refine reflects.step (reflects.numbered.addStub added) ?_ (partChange_addStub added) ?_
  · obtain ⟨stubs, -, rfl⟩ := addStub_eq_ok_iff.mp added
    exact occupied_joinScenario reflects.occupied stub
  · obtain ⟨stubs, -, rfl⟩ := addStub_eq_ok_iff.mp added
    exact reflects.noMessages

theorem Reflects.emptied (reflects : state.Reflects) : state.emptied.Reflects where
  numbered := reflects.numbered.emptied
  occupied := by
    rintro name listed
    exact absurd listed Bool.false_ne_true
  members name id := by
    have gone : state.emptied.stubs.member? name id = none :=
      StubStore.member?_eq_none (by simp [StubStore.ids, emptied_stubs])
    rw [gone]
    rfl
  noMessages := emptied_messageStubs state

theorem Reflects.restoreDefaults (reflects : state.Reflects) (defaults : List HttpStub) :
    (defaults.foldl restoreDefault state).Reflects := by
  induction defaults generalizing state with
  | nil => exact reflects
  | cons stub rest induction =>
      refine induction ?_
      rw [restoreDefault]
      split
      · next after added => exact reflects.addStub added
      · exact reflects

private theorem occupied_setScenarioState (occupied : state.scenarios.Occupied)
    {name value : String}
    (done : state.setScenarioState name value = .ok after) : after.scenarios.Occupied := by
  obtain ⟨scenarios, moved, rfl⟩ := setScenarioState_eq_ok_iff.mp done
  obtain ⟨listed, rfl⟩ := Scenarios.setState_eq_ok_iff.mp moved
  exact occupied.putState listed value

private theorem Reflects.occupied_performHttp (reflects : state.Reflects)
    (operation : HttpOperation) :
    (state.performHttp R operation).scenarios.Occupied := by
  have occupied := reflects.occupied
  cases operation with
  | addStub stub =>
      exact getD_of_ok (·.scenarios.Occupied) occupied fun after added =>
        (reflects.addStub added).occupied
  | addDefaultStub stub =>
      refine getD_of_ok (·.scenarios.Occupied) occupied fun after added => ?_
      obtain ⟨registered, stored, rfl⟩ := addDefaultStub_eq_ok_iff.mp added
      exact (reflects.addStub stored).occupied
  | replaceStub stub =>
      refine getD_of_ok (·.scenarios.Occupied) occupied fun after replaced => ?_
      obtain ⟨previous, stubs, -, -, rfl⟩ := replaceStub_eq_ok_iff.mp replaced
      exact occupied_replaceInScenarios occupied previous stub
  | removeStub id =>
      refine getD_of_ok (·.scenarios.Occupied) occupied fun after removed => ?_
      obtain ⟨stub, removed⟩ := map_snd_eq_ok removed
      obtain ⟨-, rfl⟩ := removeStub_eq_ok_iff.mp removed
      exact occupied_leaveScenarios occupied _
  | removeStubsMatching pattern => exact occupied_leaveScenarios occupied _
  | removeStubsByMetadata now pattern => exact occupied_leaveScenarios occupied _
  | resetStubs => exact occupied_leaveScenarios occupied _
  | reset => exact (occupied_leaveScenarios (occupied_leaveScenarios occupied _) _).reset
  | resetToDefaults => exact (reflects.emptied.restoreDefaults state.defaults).occupied
  | serve now request =>
      obtain ⟨declared, fromStub, -, moved⟩ := serve_moves (R := R) now state request
      rw [performHttp, moved]
      refine occupied.move fun spec isDeclared => ?_
      obtain ⟨stub, registered, scenario⟩ := fromStub spec isDeclared
      refine reflects.declares_iff_isSome.mp (List.any_eq_true.mpr ⟨stub, registered, ?_⟩)
      exact beq_iff_eq.mpr (congrArg (Option.map ScenarioSpec.name) scenario)
  | setScenarioState name value =>
      exact getD_of_ok (·.scenarios.Occupied) occupied fun _ => occupied_setScenarioState occupied
  | resetScenario name =>
      exact getD_of_ok (·.scenarios.Occupied) occupied fun _ =>
        occupied_setScenarioState occupied
  | resetScenarios => exact occupied.reset

private theorem Reflects.noMessages_performHttp (reflects : state.Reflects)
    (operation : HttpOperation) :
    (state.performHttp R operation).messageStubs.toList = [] := by
  have noMessages := reflects.noMessages
  cases operation with
  | addStub stub =>
      exact getD_of_ok (·.messageStubs.toList = []) noMessages fun after added =>
        (reflects.addStub added).noMessages
  | addDefaultStub stub =>
      refine getD_of_ok (·.messageStubs.toList = []) noMessages fun after added => ?_
      obtain ⟨registered, stored, rfl⟩ := addDefaultStub_eq_ok_iff.mp added
      exact (reflects.addStub stored).noMessages
  | replaceStub stub =>
      refine getD_of_ok (·.messageStubs.toList = []) noMessages fun after replaced => ?_
      obtain ⟨previous, stubs, -, -, rfl⟩ := replaceStub_eq_ok_iff.mp replaced
      exact noMessages
  | removeStub id =>
      refine getD_of_ok (·.messageStubs.toList = []) noMessages fun after removed => ?_
      obtain ⟨stub, removed⟩ := map_snd_eq_ok removed
      obtain ⟨-, rfl⟩ := removeStub_eq_ok_iff.mp removed
      exact noMessages
  | removeStubsMatching pattern => exact noMessages
  | removeStubsByMetadata now pattern => exact noMessages
  | resetStubs => exact noMessages
  | reset => exact emptied_messageStubs state
  | resetToDefaults => exact (reflects.emptied.restoreDefaults state.defaults).noMessages
  | serve now request =>
      rw [performHttp, (serve_stores (R := R) now state request).2]
      exact noMessages
  | setScenarioState name value =>
      refine getD_of_ok (·.messageStubs.toList = []) noMessages fun after done => ?_
      obtain ⟨scenarios, -, rfl⟩ := setScenarioState_eq_ok_iff.mp done
      exact noMessages
  | resetScenario name =>
      refine getD_of_ok (·.messageStubs.toList = []) noMessages fun after done => ?_
      obtain ⟨scenarios, -, rfl⟩ := setScenarioState_eq_ok_iff.mp done
      exact noMessages
  | resetScenarios => exact noMessages

theorem Reflects.performHttp (reflects : state.Reflects) (operation : HttpOperation) :
    (state.performHttp R operation).Reflects := by
  by_cases ordinary : operation = .resetToDefaults
  · rw [ordinary, ServerState.performHttp, resetToDefaults_eq]
    exact reflects.emptied.restoreDefaults state.defaults
  · exact reflects.step (reflects.numbered.performHttp operation)
      (reflects.occupied_performHttp operation)
      (partChange_performHttp reflects.numbered ordinary)
      (reflects.noMessages_performHttp operation)

private theorem stateOf_replaceInScenarios {previous stub : HttpStub} {scenarios : Scenarios}
    {name : String} {id : Uuid}
    (stays : ((replaceInScenarios previous stub scenarios).member? name id).isSome) :
    (replaceInScenarios previous stub scenarios).stateOf name = scenarios.stateOf name := by
  rw [replaceInScenarios] at stays ⊢
  split
  · exact stateOf_joinScenario stub scenarios name
  · next leaves =>
      rw [if_neg leaves] at stays
      rw [stateOf_leaveScenario stays, stateOf_joinScenario]

private theorem stateOf_restoreDefaults (defaults : List HttpStub) (state : ServerState)
    (name : String) :
    (defaults.foldl restoreDefault state).scenarios.stateOf name =
      state.scenarios.stateOf name := by
  induction defaults generalizing state with
  | nil => rfl
  | cons stub rest induction =>
      rw [List.foldl_cons, induction, restoreDefault]
      split
      · next after added =>
          obtain ⟨stubs, -, rfl⟩ := addStub_eq_ok_iff.mp added
          exact stateOf_joinScenario stub state.scenarios name
      · rfl

private theorem Reflects.stateOf_setScenarioState (reflects : state.Reflects) {other value : String}
    (declared : ((state.setScenarioState other value).toOption.getD state).declares name) :
    ((state.setScenarioState other value).toOption.getD state).scenarios.stateOf name =
      (if other = name then some value else none).getD (state.scenarios.stateOf name) := by
  cases done : state.setScenarioState other value with
  | error _ =>
      rw [done] at declared
      have different : other ≠ name := by
        rintro rfl
        have listed := reflects.declares_iff_isSome.mp declared
        have moved : state.scenarios.setState other value = .ok _ :=
          Scenarios.setState_eq_ok_iff.mpr ⟨listed, rfl⟩
        have accepted := setScenarioState_eq_ok_iff.mpr ⟨_, moved, rfl⟩
        rw [done] at accepted
        exact nomatch accepted
      rw [if_neg different]
      rfl
  | ok after =>
      obtain ⟨scenarios, moved, rfl⟩ := setScenarioState_eq_ok_iff.mp done
      obtain ⟨-, rfl⟩ := Scenarios.setState_eq_ok_iff.mp moved
      refine (Scenarios.stateOf_putState ..).trans ?_
      by_cases same : other = name
      · rw [if_pos same, if_pos same.symm]
        rfl
      · rw [if_neg same, if_neg (Ne.symm same)]
        rfl

/-- A scenario that is declared after an operation is in the state that the operation has given to
it, or in its former one. -/
theorem Reflects.stateOf_performHttp (reflects : state.Reflects) (operation : HttpOperation)
    (declared : (state.performHttp R operation).declares name) :
    (state.performHttp R operation).scenarios.stateOf name =
      (state.given R name operation).getD (state.scenarios.stateOf name) := by
  have reflectsAfter := reflects.performHttp (R := R) operation
  obtain ⟨id, stays⟩ := (declares_iff reflectsAfter.numbered).mp declared
  rw [← reflectsAfter.members] at stays
  let Keeps (after : ServerState) : Prop :=
    (after.scenarios.member? name id).isSome →
      after.scenarios.stateOf name = state.scenarios.stateOf name
  have refused : Keeps state := fun _ => rfl
  cases operation with
  | addStub stub =>
      refine getD_of_ok Keeps refused (fun after added _ => ?_) stays
      obtain ⟨stubs, -, rfl⟩ := addStub_eq_ok_iff.mp added
      exact stateOf_joinScenario stub state.scenarios name
  | addDefaultStub stub =>
      refine getD_of_ok Keeps refused (fun after added _ => ?_) stays
      obtain ⟨registered, stored, rfl⟩ := addDefaultStub_eq_ok_iff.mp added
      obtain ⟨stubs, -, rfl⟩ := addStub_eq_ok_iff.mp stored
      exact stateOf_joinScenario _ state.scenarios name
  | replaceStub stub =>
      refine getD_of_ok Keeps refused (fun after replaced stays => ?_) stays
      obtain ⟨previous, stubs, -, -, rfl⟩ := replaceStub_eq_ok_iff.mp replaced
      exact stateOf_replaceInScenarios stays
  | removeStub removedId =>
      refine getD_of_ok Keeps refused (fun after removed stays => ?_) stays
      obtain ⟨stub, removed⟩ := map_snd_eq_ok removed
      obtain ⟨-, rfl⟩ := removeStub_eq_ok_iff.mp removed
      exact stateOf_leaveScenarios stays
  | removeStubsMatching pattern => exact stateOf_leaveScenarios stays
  | removeStubsByMetadata now pattern => exact stateOf_leaveScenarios stays
  | resetStubs => exact stateOf_leaveScenarios stays
  | reset => exact Scenarios.stateOf_reset ..
  | resetToDefaults => exact stateOf_restoreDefaults state.defaults state.emptied name
  | serve now request =>
      obtain ⟨spec, -, transition, moved⟩ := serve_moves (R := R) now state request
      rw [ServerState.performHttp, moved, given, transition]
      exact Scenarios.stateOf_move ..
  | setScenarioState other value => exact reflects.stateOf_setScenarioState declared
  | resetScenario other => exact reflects.stateOf_setScenarioState declared
  | resetScenarios => exact Scenarios.stateOf_reset ..

theorem Reflects.runHttp (reflects : state.Reflects) (history : List HttpOperation) :
    (runHttp R state history).Reflects := by
  induction history generalizing state with
  | nil => exact reflects
  | cons operation rest induction => exact induction (reflects.performHttp operation)

/-- A declared scenario is in the last state given to it, and one that is not declared has been
given none. -/
def Follows (state : ServerState) (name : String) (states : List String) : Prop :=
  state.scenarios.stateOf name = states.getLastD Scenario.started ∧
    (¬ state.declares name → states = [])

private theorem Reflects.follows_performHttp (reflects : state.Reflects) {states : List String}
    (follows : state.Follows name states) (operation : HttpOperation) :
    (state.performHttp R operation).Follows name
      (if (state.performHttp R operation).declares name then
        states ++ (state.given R name operation).toList else []) := by
  by_cases declared : (state.performHttp R operation).declares name
  · rw [if_pos declared]
    refine ⟨?_, fun undeclared => absurd declared undeclared⟩
    rw [reflects.stateOf_performHttp operation declared, follows.1]
    cases state.given R name operation with
    | none => simp
    | some value => simp
  · rw [if_neg declared]
    exact ⟨(reflects.performHttp operation).stateOf_of_not_declares declared, fun _ => rfl⟩

private theorem Reflects.follows_runHttp (reflects : state.Reflects) {states : List String}
    (follows : state.Follows name states) (history : List HttpOperation) :
    (ServerState.runHttp R state history).Follows name
      (givenStates R state name states history) := by
  induction history generalizing state states with
  | nil => exact follows
  | cons operation rest induction =>
      exact induction (reflects.performHttp operation) (reflects.follows_performHttp follows _)

private theorem reflects_ofLimits (journalLimit : Option Nat) (nearMissLimit : Nat) :
    (ofLimits journalLimit nearMissLimit).Reflects where
  numbered := .ofLimits journalLimit nearMissLimit
  occupied := by
    rintro name listed
    exact absurd listed Bool.false_ne_true
  members _ _ := rfl
  noMessages := rfl

theorem derived_runHttp (R : Type) [Scalar R] (journalLimit : Option Nat) (nearMissLimit : Nat)
    (history : List HttpOperation) :
    Derived R (ofLimits journalLimit nearMissLimit) history
      (runHttp R (ofLimits journalLimit nearMissLimit) history) := by
  have initial := reflects_ofLimits journalLimit nearMissLimit
  have reflects := initial.runHttp (R := R) history
  have numbered := reflects.numbered.stubs
  refine {
    names_ascending := ?_
    mem_names_iff := ?_
    stubs_ascending := ?_
    mem_stubs_iff := ?_
    possibleStates_ascending := ?_
    mem_possibleStates_iff := ?_
    state_eq := ?_ }
  · rw [Scenarios.names_all]
    exact Table.keys_ascending _
  · intro name
    rw [Scenarios.names_all, Table.mem_keys_iff, reflects.declares_iff_isSome,
      Option.isSome_iff_exists]
    rfl
  · intro scenario listed
    obtain ⟨name, entry, -, rfl⟩ := Scenarios.mem_all_iff.mp listed
    exact Table.keys_ascending _
  · intro scenario listed id
    obtain ⟨name, entry, found, rfl⟩ := Scenarios.mem_all_iff.mp listed
    rw [Scenarios.mem_stubs_iff found, reflects.members, numbered.declares_iff]
    rfl
  · intro scenario listed
    obtain ⟨name, entry, -, rfl⟩ := Scenarios.mem_all_iff.mp listed
    exact Scenarios.possibleStates_ascending entry
  · intro scenario listed value
    obtain ⟨name, entry, found, rfl⟩ := Scenarios.mem_all_iff.mp listed
    refine (Scenarios.mem_possibleStates found).trans (or_congr_right ?_)
    simp only [reflects.members, numbered.member?_eq_some_iff, ScenarioSpec.mem_states]
    constructor
    · rintro ⟨id, spec, ⟨stub, registered, -, declared, sameName⟩, named⟩
      exact ⟨stub, registered, spec, declared, sameName, named⟩
    · rintro ⟨stub, registered, spec, declared, sameName, named⟩
      exact ⟨Stub.id stub, spec, ⟨stub, registered, rfl, declared, sameName⟩, named⟩
  · intro scenario listed
    obtain ⟨name, entry, found, rfl⟩ := Scenarios.mem_all_iff.mp listed
    have start : (ofLimits journalLimit nearMissLimit).Follows name [] := ⟨rfl, fun _ => rfl⟩
    have follows := initial.follows_runHttp (R := R) start history
    rw [← Scenarios.entry_of_find? found]
    exact (follows.1 : Scenarios.stateOf _ name = _)

end ServiceStub.ServerState
