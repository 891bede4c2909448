import ServiceStub.Proofs.Scenario.Participation
import ServiceStub.Proofs.Server.Operation
import ServiceStub.Proofs.Stub.Resolution

/-!
What an operation on a server can do to the part that the stubs with one id have in the scenario
with one name.
-/

namespace ServiceStub

variable {S Input : Type} [Stub S Input]

/-- The part of the stub for requests, of the message stub, and what the table of scenarios says,
before and after an operation. -/
inductive PartChange (http message table http' message' table' : Option ScenarioSpec) : Prop where
  | kept (httpKept : http' = http) (messageKept : message' = message) (tableKept : table' = table)
  | httpJoined (joined : http'.isSome) (listed : table' = http') (messageKept : message' = message)
  | messageJoined (joined : message'.isSome) (listed : table' = message')
      (httpKept : http' = http)
  | left (gone : (http.isSome ∧ http' = none) ∨ (message.isSome ∧ message' = none))
      (unlisted : table' = none) (httpRest : http' = http ∨ http' = none)
      (messageRest : message' = message ∨ message' = none)

private theorem PartChange.of_leaving
    {http message table http' message' table' : Option ScenarioSpec}
    {httpLeaves messageLeaves : Prop} [Decidable httpLeaves] [Decidable messageLeaves]
    (httpAfter : http' = if httpLeaves then none else http)
    (messageAfter : message' = if messageLeaves then none else message)
    (tableAfter : table' = if messageLeaves then none else if httpLeaves then none else table)
    (httpKnown : httpLeaves → http.isSome) (messageKnown : messageLeaves → message.isSome) :
    PartChange http message table http' message' table' := by
  by_cases httpLeft : httpLeaves
  · rw [if_pos httpLeft] at httpAfter
    rw [if_pos httpLeft, ite_self] at tableAfter
    refine .left (.inl ⟨httpKnown httpLeft, httpAfter⟩) tableAfter (.inr httpAfter) ?_
    rw [messageAfter]
    split
    · exact .inr rfl
    · exact .inl rfl
  · rw [if_neg httpLeft] at httpAfter tableAfter
    by_cases messageLeft : messageLeaves
    · rw [if_pos messageLeft] at messageAfter tableAfter
      exact .left (.inr ⟨messageKnown messageLeft, messageAfter⟩) tableAfter (.inl httpAfter)
        (.inr messageAfter)
    · rw [if_neg messageLeft] at messageAfter tableAfter
      exact .kept httpAfter messageAfter tableAfter

namespace ServerState

variable {state : ServerState}

structure Numbered (state : ServerState) : Prop where
  stubs : state.stubs.Numbered
  messageStubs : state.messageStubs.Numbered

def PartChangeAt (before after : ServerState) (name : String) (id : Uuid) : Prop :=
  PartChange (before.stubs.member? name id) (before.messageStubs.member? name id)
    (before.scenarios.member? name id) (after.stubs.member? name id)
    (after.messageStubs.member? name id) (after.scenarios.member? name id)

/-- Parts depend on the stubs and on the members of the scenarios only. -/
theorem PartChangeAt.of_members {before after : ServerState} {name : String} {id : Uuid}
    (stubs : after.stubs = before.stubs) (messageStubs : after.messageStubs = before.messageStubs)
    (members : after.scenarios.member? name id = before.scenarios.member? name id) :
    PartChangeAt before after name id :=
  .kept (by rw [stubs]) (by rw [messageStubs]) members

theorem addStub_eq_ok_iff {stub : HttpStub} {after : ServerState} :
    state.addStub stub = .ok after ↔
      ∃ stubs, state.stubs.add stub = .ok stubs ∧
        after = { state with stubs, scenarios := joinScenario stub state.scenarios } := by
  simp only [addStub]
  cases added : state.stubs.add stub with
  | error _ => simp [bind, Except.bind]
  | ok stubs => simp [bind, Except.bind, pure, Except.pure, eq_comm]

theorem addDefaultStub_eq_ok_iff {stub : HttpStub} {after : ServerState} :
    state.addDefaultStub stub = .ok after ↔
      ∃ added, state.addStub { stub with persistent := true } = .ok added ∧
        after =
          { added with defaults := added.defaults ++ [{ stub with persistent := true }] } := by
  simp only [addDefaultStub]
  cases added : state.addStub { stub with persistent := true } with
  | error _ => simp [bind, Except.bind]
  | ok added => simp [bind, Except.bind, pure, Except.pure, eq_comm]

/-- The table of scenarios once a stub has taken the place of another. -/
def replaceInScenarios (previous stub : HttpStub) (scenarios : Scenarios) : Scenarios :=
  if previous.scenario.map ScenarioSpec.name == stub.scenario.map ScenarioSpec.name then
    joinScenario stub scenarios
  else leaveScenario previous (joinScenario stub scenarios)

theorem replaceStub_eq_ok_iff {stub : HttpStub} {after : ServerState} :
    state.replaceStub stub = .ok after ↔
      ∃ previous stubs, state.stubs.find? stub.id = some previous ∧
        state.stubs.replace stub = .ok stubs ∧
        after = { state with
          stubs, scenarios := replaceInScenarios previous stub state.scenarios } := by
  simp only [replaceStub]
  cases found : state.stubs.find? stub.id with
  | none => simp
  | some previous =>
      cases replaced : state.stubs.replace stub with
      | error _ => simp [bind, Except.bind]
      | ok stubs =>
          simp only [bind, Except.bind, pure, Except.pure, Except.ok.injEq, Option.some.injEq,
            exists_eq_left', exists_and_left]
          exact eq_comm

theorem partChange_addStub {stub : HttpStub} {after : ServerState}
    (added : state.addStub stub = .ok after) (name : String) (id : Uuid) :
    PartChangeAt state after name id := by
  obtain ⟨stubs, stored, rfl⟩ := addStub_eq_ok_iff.mp added
  have httpAfter := StubStore.member?_add stored name id
  have tableAfter := member?_joinScenario stub state.scenarios name id
  by_cases same : id = Stub.id stub
  · rw [if_pos same] at httpAfter tableAfter
    cases part : Stub.partIn stub name with
    | none =>
        have fresh := (StubStore.add_eq_ok_iff.mp stored).1
        refine .kept ?_ rfl (by rw [tableAfter, part, Option.none_or])
        rw [httpAfter, part, StubStore.member?_eq_none (same ▸ fresh)]
    | some spec =>
        refine .httpJoined ?_ ?_ rfl
        · rw [httpAfter, part]
          rfl
        · rw [httpAfter, tableAfter, part, Option.some_or]
  · rw [if_neg same] at httpAfter tableAfter
    exact .kept httpAfter rfl tableAfter

private theorem member?_replaceInScenarios {previous stub : HttpStub}
    (sameId : previous.id = stub.id) (scenarios : Scenarios) (name : String) (id : Uuid) :
    (replaceInScenarios previous stub scenarios).member? name id =
      if id = stub.id then
        (Stub.partIn stub name).or
          (if (Stub.partIn previous name).isSome then none else scenarios.member? name id)
      else scenarios.member? name id := by
  have previousId : Stub.id previous = stub.id := sameId
  have stubId : Stub.id stub = stub.id := rfl
  have joined := member?_joinScenario stub scenarios name id
  rw [stubId] at joined
  by_cases same : id = stub.id
  · rw [if_pos same] at joined ⊢
    cases stays :
        previous.scenario.map ScenarioSpec.name == stub.scenario.map ScenarioSpec.name with
    | true =>
        rw [replaceInScenarios, stays, if_pos rfl, joined]
        have sameNames : (Stub.scenario previous).map ScenarioSpec.name =
            (Stub.scenario stub).map ScenarioSpec.name := beq_iff_eq.mp stays
        cases part : Stub.partIn stub name with
        | some spec => rfl
        | none =>
            have apart : ¬ (Stub.partIn previous name).isSome := by
              rw [Stub.partIn_isSome_iff, sameNames, ← Stub.partIn_isSome_iff, part]
              simp
            rw [if_neg apart]
    | false =>
        rw [replaceInScenarios, stays, if_neg Bool.false_ne_true, member?_leaveScenario, joined,
          previousId]
        have otherNames : (Stub.scenario previous).map ScenarioSpec.name ≠
            (Stub.scenario stub).map ScenarioSpec.name := beq_eq_false_iff_ne.mp stays
        by_cases left : (Stub.partIn previous name).isSome
        · have apart : Stub.partIn stub name = none := by
            rw [← Option.not_isSome_iff_eq_none, Stub.partIn_isSome_iff]
            exact fun joins => otherNames ((Stub.partIn_isSome_iff.mp left).trans joins.symm)
          rw [if_pos ⟨same, left⟩, if_pos left, apart, Option.none_or]
        · rw [if_neg (fun both => left both.2), if_neg left]
  · rw [if_neg same] at joined ⊢
    rw [replaceInScenarios]
    split
    · exact joined
    · rw [member?_leaveScenario, previousId, if_neg (fun both => same both.1), joined]

theorem partChange_replaceStub (numbered : state.Numbered) {stub : HttpStub} {after : ServerState}
    (replaced : state.replaceStub stub = .ok after) (name : String) (id : Uuid) :
    PartChangeAt state after name id := by
  obtain ⟨previous, stubs, found, stored, rfl⟩ := replaceStub_eq_ok_iff.mp replaced
  have sameId : previous.id = stub.id := (StubStore.find?_sound found).2
  have httpAfter := numbered.stubs.member?_replace stored name id
  have tableAfter := member?_replaceInScenarios sameId state.scenarios name id
  have stubId : Stub.id stub = stub.id := rfl
  rw [stubId] at httpAfter
  by_cases same : id = stub.id
  · have httpBefore : state.stubs.member? name id = Stub.partIn previous name := by
      rw [StubStore.member?, same, found, Option.bind_some]
    rw [if_pos same] at httpAfter tableAfter
    cases part : Stub.partIn stub name with
    | some spec =>
        rw [part] at httpAfter tableAfter
        refine .httpJoined ?_ ?_ rfl
        · rw [httpAfter]
          rfl
        · rw [httpAfter, tableAfter, Option.some_or]
    | none =>
        rw [part] at httpAfter tableAfter
        rw [Option.none_or] at tableAfter
        by_cases left : (Stub.partIn previous name).isSome
        · rw [if_pos left] at tableAfter
          exact .left (.inl ⟨httpBefore ▸ left, httpAfter⟩) tableAfter (.inr httpAfter) (.inl rfl)
        · rw [if_neg left] at tableAfter
          refine .kept ?_ rfl tableAfter
          rw [httpAfter, httpBefore, Option.not_isSome_iff_eq_none.mp left]
  · rw [if_neg same] at httpAfter tableAfter
    exact .kept httpAfter rfl tableAfter

theorem partChange_removeStubsWhere (numbered : state.Numbered) (condition : HttpStub → Bool)
    (name : String) (id : Uuid) :
    PartChangeAt state (state.removeStubsWhere condition).2 name id := by
  have tableAfter := member?_leaveScenarios (state.stubs.removeWhere condition).1
    state.scenarios name id
  exact .of_leaving (numbered.stubs.member?_removeWhere condition name id)
    (if_neg not_false).symm (by rw [if_neg not_false]; exact tableAfter)
    numbered.stubs.member?_of_removed False.elim

theorem removeStub_eq_ok_iff {id : Uuid} {stub : HttpStub} {after : ServerState} :
    state.removeStub id = .ok (stub, after) ↔
      state.stubs.find? id = some stub ∧
        after = (state.removeStubsWhere fun stub => stub.id == id).2 := by
  simp only [removeStub]
  cases found : state.stubs.find? id with
  | none => simp
  | some previous =>
      simp only [Except.ok.injEq, Prod.mk.injEq, Option.some.injEq, and_congr_right_iff]
      exact fun _ => eq_comm

theorem addMessageStub_eq_ok_iff {stub : MessageStub} {after : ServerState} :
    state.addMessageStub stub = .ok after ↔
      ∃ messageStubs, state.messageStubs.add stub = .ok messageStubs ∧
        after = { state with messageStubs, scenarios := joinScenario stub state.scenarios } := by
  simp only [addMessageStub]
  cases added : state.messageStubs.add stub with
  | error _ => simp [bind, Except.bind]
  | ok messageStubs => simp [bind, Except.bind, pure, Except.pure, eq_comm]

def withoutMessageStubs (state : ServerState) (condition : MessageStub → Bool) : ServerState :=
  { state with
    messageStubs := (state.messageStubs.removeWhere condition).2
    scenarios := leaveScenarios (state.messageStubs.removeWhere condition).1 state.scenarios }

theorem removeMessageStub_eq_ok_iff (numbered : state.Numbered) {id : Uuid} {stub : MessageStub}
    {after : ServerState} :
    state.removeMessageStub id = .ok (stub, after) ↔
      state.messageStubs.find? id = some stub ∧
        after = state.withoutMessageStubs fun stub => Stub.id stub == id := by
  have first : (state.messageStubs.remove id).1 = state.messageStubs.find? id :=
    StubStore.remove_fst id
  rw [removeMessageStub]
  rcases removed : state.messageStubs.remove id with ⟨found, messageStubs⟩
  rw [removed] at first
  cases found with
  | none => simp [← first]
  | some previous =>
      have store : messageStubs =
          (state.messageStubs.removeWhere fun stub => Stub.id stub == id).2 := by
        rw [← StubStore.remove_snd, removed]
      have leaving := numbered.messageStubs.removeWhere_id_fst first.symm
      simp only [Except.ok.injEq, Prod.mk.injEq, ← first, Option.some.injEq,
        withoutMessageStubs, leaving, leaveScenarios, List.foldl_cons, List.foldl_nil, store]
      exact and_congr_right fun _ => eq_comm

theorem partChange_addMessageStub {stub : MessageStub} {after : ServerState}
    (added : state.addMessageStub stub = .ok after) (name : String) (id : Uuid) :
    PartChangeAt state after name id := by
  obtain ⟨messageStubs, stored, rfl⟩ := addMessageStub_eq_ok_iff.mp added
  have messageAfter := StubStore.member?_add stored name id
  have tableAfter := member?_joinScenario stub state.scenarios name id
  by_cases same : id = Stub.id stub
  · rw [if_pos same] at messageAfter tableAfter
    cases part : Stub.partIn stub name with
    | none =>
        have fresh := (StubStore.add_eq_ok_iff.mp stored).1
        refine .kept rfl ?_ (by rw [tableAfter, part, Option.none_or])
        rw [messageAfter, part, StubStore.member?_eq_none (same ▸ fresh)]
    | some spec =>
        refine .messageJoined ?_ ?_ rfl
        · rw [messageAfter, part]
          rfl
        · rw [messageAfter, tableAfter, part, Option.some_or]
  · rw [if_neg same] at messageAfter tableAfter
    exact .kept rfl messageAfter tableAfter

theorem partChange_withoutMessageStubs (numbered : state.Numbered)
    (condition : MessageStub → Bool) (name : String) (id : Uuid) :
    PartChangeAt state (state.withoutMessageStubs condition) name id := by
  have tableAfter := member?_leaveScenarios (state.messageStubs.removeWhere condition).1
    state.scenarios name id
  exact .of_leaving (if_neg not_false).symm
    (numbered.messageStubs.member?_removeWhere condition name id)
    (by rw [if_neg not_false]; exact tableAfter) False.elim
    numbered.messageStubs.member?_of_removed

theorem partChange_reset (numbered : state.Numbered) (name : String) (id : Uuid) :
    PartChangeAt state state.reset name id := by
  have tableAfter : state.reset.scenarios.member? name id = _ :=
    (Scenarios.member?_reset ..).trans (member?_leaveScenarios ..)
  rw [show state.resetStubs.scenarios = leaveScenarios _ _ from rfl, member?_leaveScenarios]
    at tableAfter
  exact .of_leaving (numbered.stubs.member?_removeWhere (fun stub => !stub.persistent) name id)
    (numbered.messageStubs.member?_removeWhere (fun _ => true) name id) tableAfter
    numbered.stubs.member?_of_removed numbered.messageStubs.member?_of_removed

end ServerState

end ServiceStub
