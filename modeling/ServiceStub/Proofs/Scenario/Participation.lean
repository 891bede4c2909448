import ServiceStub.Server.State
import ServiceStub.Proofs.Scenario.Membership
import ServiceStub.Proofs.Stub.Store

/-!
Stubs join their scenarios when they are registered and leave them when they are removed.  Both
are read off the table of scenarios through its members.
-/

namespace ServiceStub

variable {S Input : Type} [Stub S Input]

/-- How a stub takes part in a scenario of that name, if it does. -/
def Stub.partIn (stub : S) (name : String) : Option ScenarioSpec :=
  (Stub.scenario stub).filter fun spec => spec.name == name

private theorem Stub.partIn_eq_some_iff {stub : S} {name : String} {spec : ScenarioSpec} :
    Stub.partIn stub name = some spec ↔ Stub.scenario stub = some spec ∧ spec.name = name := by
  simp [partIn, Option.filter_eq_some_iff]

theorem Stub.partIn_isSome_iff {stub : S} {name : String} :
    (Stub.partIn stub name).isSome ↔ (Stub.scenario stub).map ScenarioSpec.name = some name := by
  simp [Option.isSome_iff_exists, partIn_eq_some_iff]

def StubStore.member? (store : StubStore S) (name : String) (id : Uuid) : Option ScenarioSpec :=
  (store.find? id).bind fun stub => Stub.partIn stub name

/-- A stub with that id is registered and declares a scenario of that name. -/
def StubStore.Declares (store : StubStore S) (name : String) (id : Uuid) : Prop :=
  ∃ stub ∈ store.toList, Stub.id stub = id ∧
    (Stub.scenario stub).map ScenarioSpec.name = some name

namespace StubStore

variable {store after : StubStore S} {stub : S}

theorem member?_add (added : store.add stub = .ok after) (name : String) (id : Uuid) :
    after.member? name id =
      if id = Stub.id stub then Stub.partIn stub name else store.member? name id := by
  simp only [member?, find?_add added]
  split <;> rfl

theorem member?_eq_none {name : String} {id : Uuid} (unknown : id ∉ store.ids) :
    store.member? name id = none := by
  simp [member?, find?_eq_none_iff.mpr unknown]

namespace Numbered

theorem member?_isSome_iff (numbered : store.Numbered) {name : String} {id : Uuid} :
    (store.member? name id).isSome ↔
      ∃ stub ∈ store.toList, Stub.id stub = id ∧ (Stub.partIn stub name).isSome := by
  simp only [member?, Option.isSome_bind, Option.any_eq_true, numbered.find?_iff, and_assoc]

theorem member?_eq_some_iff (numbered : store.Numbered) {name : String} {id : Uuid}
    {spec : ScenarioSpec} :
    store.member? name id = some spec ↔
      ∃ stub ∈ store.toList, Stub.id stub = id ∧ Stub.scenario stub = some spec ∧
        spec.name = name := by
  simp only [member?, Option.bind_eq_some_iff, numbered.find?_iff, Stub.partIn_eq_some_iff,
    and_assoc]

theorem declares_iff (numbered : store.Numbered) {name : String} {id : Uuid} :
    store.Declares name id ↔ (store.member? name id).isSome := by
  simp only [Declares, numbered.member?_isSome_iff, Stub.partIn_isSome_iff]

theorem member?_replace (numbered : store.Numbered) (replaced : store.replace stub = .ok after)
    (name : String) (id : Uuid) :
    after.member? name id =
      if id = Stub.id stub then Stub.partIn stub name else store.member? name id := by
  simp only [member?, numbered.find?_replace replaced]
  split <;> rfl

theorem member?_of_removed (numbered : store.Numbered) {condition : S → Bool} {name : String}
    {id : Uuid}
    (removed : ∃ stub ∈ (store.removeWhere condition).1,
      Stub.id stub = id ∧ (Stub.partIn stub name).isSome) :
    (store.member? name id).isSome := by
  obtain ⟨stub, member, sameId, part⟩ := removed
  rw [removeWhere_fst] at member
  exact numbered.member?_isSome_iff.mpr ⟨stub, List.mem_of_mem_filter member, sameId, part⟩

theorem member?_removeWhere (numbered : store.Numbered) (condition : S → Bool) (name : String)
    (id : Uuid) :
    (store.removeWhere condition).2.member? name id =
      if ∃ stub ∈ (store.removeWhere condition).1,
        Stub.id stub = id ∧ (Stub.partIn stub name).isSome
      then none else store.member? name id := by
  have removed_iff (stub : S) : stub ∈ (store.removeWhere condition).1 ↔
      stub ∈ store.toList ∧ condition stub := by
    rw [removeWhere_fst, List.mem_filter]
  rw [member?, numbered.find?_removeWhere, member?]
  cases found : store.find? id with
  | none => split <;> rfl
  | some stub =>
      obtain ⟨member, sameId⟩ := numbered.find?_iff.mp found
      have removed : (∃ other ∈ (store.removeWhere condition).1,
          Stub.id other = id ∧ (Stub.partIn other name).isSome) ↔
            condition stub ∧ (Stub.partIn stub name).isSome := by
        constructor
        · rintro ⟨other, otherRemoved, otherId, part⟩
          obtain ⟨otherMember, taken⟩ := (removed_iff other).mp otherRemoved
          rw [numbered.eq_of_id otherMember member (otherId.trans sameId.symm)] at taken part
          exact ⟨taken, part⟩
        · rintro ⟨taken, part⟩
          exact ⟨stub, (removed_iff stub).mpr ⟨member, taken⟩, sameId, part⟩
      rw [if_congr removed rfl rfl]
      by_cases taken : condition stub
      · cases part : Stub.partIn stub name <;> simp [taken, part]
      · simp [Option.filter_some, taken]

end Numbered

end StubStore

namespace ServerState

variable {scenarios : Scenarios} {name : String} {id : Uuid}

theorem member?_joinScenario (stub : S) (scenarios : Scenarios) (name : String) (id : Uuid) :
    (joinScenario stub scenarios).member? name id =
      if id = Stub.id stub then (Stub.partIn stub name).or (scenarios.member? name id)
      else scenarios.member? name id := by
  simp only [joinScenario, Stub.partIn]
  cases declared : Stub.scenario stub with
  | none => simp
  | some spec =>
      simp only [Scenarios.member?_addStub, Option.filter_some, beq_iff_eq]
      by_cases sameId : id = Stub.id stub
      · by_cases sameName : spec.name = name
        · simp [sameId, sameName]
        · simp [sameId, sameName, Ne.symm sameName]
      · simp [sameId]

@[simp] theorem stateOf_joinScenario (stub : S) (scenarios : Scenarios) (name : String) :
    (joinScenario stub scenarios).stateOf name = scenarios.stateOf name := by
  simp only [joinScenario]
  split
  · rfl
  · exact Scenarios.stateOf_addStub ..

theorem occupied_joinScenario (occupied : scenarios.Occupied) (stub : S) :
    (joinScenario stub scenarios).Occupied := by
  simp only [joinScenario]
  split
  · exact occupied
  · exact occupied.addStub _ _

theorem member?_leaveScenario (stub : S) (scenarios : Scenarios) (name : String) (id : Uuid) :
    (leaveScenario stub scenarios).member? name id =
      if id = Stub.id stub ∧ (Stub.partIn stub name).isSome then none
      else scenarios.member? name id := by
  rcases Option.eq_none_or_eq_some (Stub.scenario stub) with declared | ⟨spec, declared⟩
  · simp [leaveScenario, Stub.partIn, declared]
  · by_cases sameName : spec.name = name
    · simp [leaveScenario, Stub.partIn, declared, Scenarios.member?_removeStub, sameName]
    · simp [leaveScenario, Stub.partIn, declared, Scenarios.member?_removeStub, sameName,
        Ne.symm sameName]

theorem stateOf_leaveScenario {stub : S}
    (stays : ((leaveScenario stub scenarios).member? name id).isSome) :
    (leaveScenario stub scenarios).stateOf name = scenarios.stateOf name := by
  simp only [leaveScenario] at stays ⊢
  split
  · rfl
  · next spec declared =>
      rw [declared] at stays
      exact Scenarios.stateOf_removeStub stays

theorem occupied_leaveScenario (occupied : scenarios.Occupied) (stub : S) :
    (leaveScenario stub scenarios).Occupied := by
  simp only [leaveScenario]
  split
  · exact occupied
  · exact occupied.removeStub _ _

theorem member?_leaveScenarios (removed : List S) (scenarios : Scenarios) (name : String)
    (id : Uuid) :
    (leaveScenarios removed scenarios).member? name id =
      if ∃ stub ∈ removed, Stub.id stub = id ∧ (Stub.partIn stub name).isSome then none
      else scenarios.member? name id := by
  induction removed generalizing scenarios with
  | nil => simp [leaveScenarios]
  | cons stub rest induction =>
      have unfolded : leaveScenarios (stub :: rest) scenarios =
          leaveScenarios rest (leaveScenario stub scenarios) := rfl
      rw [unfolded, induction, member?_leaveScenario]
      by_cases first : Stub.id stub = id ∧ (Stub.partIn stub name).isSome
      · simp [first.1, first.2]
      · have notFirst : ¬ (id = Stub.id stub ∧ (Stub.partIn stub name).isSome) :=
          fun both => first ⟨both.1.symm, both.2⟩
        simp only [List.mem_cons, exists_eq_or_imp, first, notFirst, false_or, if_false]

theorem stateOf_leaveScenarios {removed : List S}
    (stays : ((leaveScenarios removed scenarios).member? name id).isSome) :
    (leaveScenarios removed scenarios).stateOf name = scenarios.stateOf name := by
  induction removed generalizing scenarios with
  | nil => rfl
  | cons stub rest induction =>
      have unfolded : leaveScenarios (stub :: rest) scenarios =
          leaveScenarios rest (leaveScenario stub scenarios) := rfl
      rw [unfolded] at stays ⊢
      rw [induction stays]
      rw [member?_leaveScenarios] at stays
      split at stays
      · simp at stays
      · exact stateOf_leaveScenario stays

theorem occupied_leaveScenarios (occupied : scenarios.Occupied) (removed : List S) :
    (leaveScenarios removed scenarios).Occupied := by
  induction removed generalizing scenarios with
  | nil => exact occupied
  | cons stub rest induction => exact induction (occupied_leaveScenario occupied stub)

end ServerState

end ServiceStub
