import ServiceStub.Scenario
import Mathlib.Tactic.ByCases
import Mathlib.Logic.Basic

/-!
A table of scenarios seen from outside: who takes part in which scenario, and the state that each
scenario is in.
-/

namespace ServiceStub

theorem ScenarioSpec.mem_states {spec : ScenarioSpec} {value : String} :
    value ∈ spec.states ↔ spec.requiredState = some value ∨ spec.newState = some value := by
  simp [states]

namespace Scenarios

variable {scenarios : Scenarios} {name other : String} {id member : Uuid} {spec : ScenarioSpec}

def member? (scenarios : Scenarios) (name : String) (id : Uuid) : Option ScenarioSpec :=
  (scenarios.entry name).stubs.find? id

def Occupied (scenarios : Scenarios) : Prop :=
  ∀ name, (scenarios.find? name).isSome → ∃ id, (scenarios.member? name id).isSome

@[simp] theorem find?_put_self (scenarios : Scenarios) (name : String) (entry : ScenarioEntry) :
    (scenarios.put name entry).find? name = some entry :=
  Table.find?_insert_self ..

private theorem find?_put_of_ne (different : other ≠ name) (scenarios : Scenarios)
    (entry : ScenarioEntry) : (scenarios.put name entry).find? other = scenarios.find? other :=
  Table.find?_insert_of_ne different ..

@[simp] theorem entry_put_self (scenarios : Scenarios) (name : String) (entry : ScenarioEntry) :
    (scenarios.put name entry).entry name = entry := by
  simp [Scenarios.entry]

private theorem entry_put_of_ne (different : other ≠ name) (scenarios : Scenarios)
    (entry : ScenarioEntry) : (scenarios.put name entry).entry other = scenarios.entry other := by
  simp [Scenarios.entry, find?_put_of_ne different]

theorem entry_of_find? {entry : ScenarioEntry} (found : scenarios.find? name = some entry) :
    scenarios.entry name = entry := by
  simp [Scenarios.entry, found]

theorem find?_of_member? (joined : (scenarios.member? name id).isSome) :
    scenarios.find? name = some (scenarios.entry name) := by
  cases found : scenarios.find? name with
  | none => simp [member?, Scenarios.entry, found] at joined
  | some entry => rw [entry_of_find? found]

theorem member?_addStub (scenarios : Scenarios) (id : Uuid) (spec : ScenarioSpec) (name : String)
    (member : Uuid) :
    (scenarios.addStub id spec).member? name member =
      if name = spec.name ∧ member = id then some spec else scenarios.member? name member := by
  by_cases sameName : name = spec.name
  · subst sameName
    by_cases sameId : member = id
    · simp [member?, addStub, sameId]
    · simp [member?, addStub, sameId, Table.find?_insert_of_ne sameId]
  · simp [member?, addStub, sameName, entry_put_of_ne sameName]

@[simp] theorem stateOf_addStub (scenarios : Scenarios) (id : Uuid) (spec : ScenarioSpec)
    (name : String) : (scenarios.addStub id spec).stateOf name = scenarios.stateOf name := by
  by_cases same : name = spec.name
  · simp [stateOf, addStub, same]
  · simp [stateOf, addStub, entry_put_of_ne same]

theorem Occupied.addStub (occupied : scenarios.Occupied) (id : Uuid) (spec : ScenarioSpec) :
    (scenarios.addStub id spec).Occupied := by
  intro name listed
  by_cases same : name = spec.name
  · exact ⟨id, by simp [member?_addStub, same]⟩
  · rw [Scenarios.addStub, find?_put_of_ne same] at listed
    obtain ⟨member, joined⟩ := occupied name listed
    exact ⟨member, by simpa [member?_addStub, same] using joined⟩

private theorem find?_removeStub_self (scenarios : Scenarios) (id : Uuid) (spec : ScenarioSpec) :
    (scenarios.removeStub id spec).find? spec.name =
      (scenarios.find? spec.name).bind fun entry =>
        if (entry.stubs.erase id).isEmpty then none
        else some { entry with stubs := entry.stubs.erase id } := by
  simp only [removeStub]
  cases found : scenarios.find? spec.name with
  | none => exact found
  | some entry =>
      by_cases last : (entry.stubs.erase id).isEmpty
      · simp only [last, if_true, Option.bind_some]
        exact Table.find?_erase_self scenarios.entries spec.name
      · simp [last]

theorem find?_removeStub_of_ne (different : name ≠ spec.name) (scenarios : Scenarios)
    (id : Uuid) : (scenarios.removeStub id spec).find? name = scenarios.find? name := by
  simp only [removeStub]
  split
  · rfl
  · split
    · exact Table.find?_erase_of_ne different scenarios.entries
    · exact find?_put_of_ne different ..

theorem member?_removeStub (scenarios : Scenarios) (id : Uuid) (spec : ScenarioSpec)
    (name : String) (member : Uuid) :
    (scenarios.removeStub id spec).member? name member =
      if name = spec.name ∧ member = id then none else scenarios.member? name member := by
  by_cases sameName : name = spec.name
  · subst sameName
    simp only [member?, Scenarios.entry, find?_removeStub_self, true_and]
    cases found : scenarios.find? spec.name with
    | none => simp
    | some entry =>
        have erased : (entry.stubs.erase id).find? member =
            if member = id then none else entry.stubs.find? member := by
          by_cases sameId : member = id
          · simp [sameId]
          · simp [sameId, Table.find?_erase_of_ne sameId]
        by_cases last : (entry.stubs.erase id).isEmpty
        · have gone := Table.isEmpty_iff.mp last member
          simp [last, ← erased, gone]
        · simp [last, erased]
  · simp [member?, Scenarios.entry, find?_removeStub_of_ne sameName, sameName]

/-- A scenario that somebody still takes part in keeps its state. -/
theorem stateOf_removeStub (stays : (scenarios.removeStub id spec).member? name member |>.isSome) :
    (scenarios.removeStub id spec).stateOf name = scenarios.stateOf name := by
  by_cases same : name = spec.name
  · subst same
    have listed := find?_of_member? stays
    rw [find?_removeStub_self, Option.bind_eq_some_iff] at listed
    obtain ⟨entry, found, left⟩ := listed
    split at left
    · simp at left
    · rw [stateOf, ← Option.some.inj left, stateOf, entry_of_find? found]
  · simp [stateOf, Scenarios.entry, find?_removeStub_of_ne same]

theorem Occupied.removeStub (occupied : scenarios.Occupied) (id : Uuid) (spec : ScenarioSpec) :
    (scenarios.removeStub id spec).Occupied := by
  intro name listed
  by_cases same : name = spec.name
  · subst same
    obtain ⟨entry, found⟩ := Option.isSome_iff_exists.mp listed
    have kept := found
    rw [find?_removeStub_self, Option.bind_eq_some_iff] at kept
    obtain ⟨before, -, left⟩ := kept
    split at left
    · simp at left
    · next inhabited =>
        rw [Table.isEmpty_iff, not_forall] at inhabited
        obtain ⟨member, joined⟩ := inhabited
        refine ⟨member, ?_⟩
        rw [member?, entry_of_find? found, ← Option.some.inj left]
        exact Option.isSome_iff_ne_none.mpr joined
  · rw [find?_removeStub_of_ne same] at listed
    obtain ⟨member, joined⟩ := occupied name listed
    exact ⟨member, by simpa [member?_removeStub, same] using joined⟩

theorem setState_eq_ok_iff {state : String} {after : Scenarios} :
    scenarios.setState name state = .ok after ↔
      (scenarios.find? name).isSome ∧
        after = scenarios.put name { scenarios.entry name with state } := by
  simp only [setState]
  cases found : scenarios.find? name with
  | none => simp
  | some entry =>
      rw [entry_of_find? found]
      simp [eq_comm]

private theorem member?_putState (scenarios : Scenarios) (name state : String) (other : String)
    (member : Uuid) :
    (scenarios.put name { scenarios.entry name with state }).member? other member =
      scenarios.member? other member := by
  by_cases same : other = name
  · simp [member?, same]
  · simp [member?, entry_put_of_ne same]

theorem stateOf_putState (scenarios : Scenarios) (name state : String) (other : String) :
    (scenarios.put name { scenarios.entry name with state }).stateOf other =
      if other = name then state else scenarios.stateOf other := by
  by_cases same : other = name
  · simp [stateOf, same]
  · simp [stateOf, entry_put_of_ne same, same]

theorem Occupied.putState (occupied : scenarios.Occupied) {name : String}
    (listed : (scenarios.find? name).isSome) (state : String) :
    (scenarios.put name { scenarios.entry name with state }).Occupied := by
  intro other otherListed
  simp only [member?_putState]
  by_cases same : other = name
  · exact occupied other (same ▸ listed)
  · rw [find?_put_of_ne same] at otherListed
    exact occupied other otherListed

theorem member?_setState {state : String} {after : Scenarios}
    (done : scenarios.setState name state = .ok after) (other : String) (member : Uuid) :
    after.member? other member = scenarios.member? other member := by
  obtain ⟨-, rfl⟩ := setState_eq_ok_iff.mp done
  exact member?_putState ..

private theorem find?_reset (scenarios : Scenarios) (name : String) :
    scenarios.reset.find? name =
      (scenarios.find? name).map fun entry => { entry with state := Scenario.started } :=
  Table.find?_mapValues ..

theorem member?_reset (scenarios : Scenarios) (name : String) (member : Uuid) :
    scenarios.reset.member? name member = scenarios.member? name member := by
  simp only [member?, Scenarios.entry, find?_reset]
  cases scenarios.find? name <;> rfl

theorem stateOf_reset (scenarios : Scenarios) (name : String) :
    scenarios.reset.stateOf name = Scenario.started := by
  simp only [stateOf, Scenarios.entry, find?_reset]
  cases scenarios.find? name <;> rfl

theorem Occupied.reset (occupied : scenarios.Occupied) : scenarios.reset.Occupied := by
  intro name listed
  simp only [member?_reset]
  exact occupied name (by simpa [find?_reset] using listed)

/-- How a match changes a table: the scenario of the stub goes to the new state that the stub
declares, if it declares one, and nothing else changes. -/
def Moved (before after : Scenarios) (spec : Option ScenarioSpec)
    (transition : Option Transition) : Prop :=
  match spec.bind fun spec => spec.newState.map fun state => (spec.name, state) with
  | none => transition = none ∧ after = before
  | some (name, state) =>
      transition = some { scenario := name, before := before.stateOf name, after := state } ∧
        after.find? name = some { state, stubs := (before.entry name).stubs } ∧
        ∀ other, other ≠ name → after.find? other = before.find? other

theorem member?_move (scenarios : Scenarios) (spec : Option ScenarioSpec) (name : String)
    (member : Uuid) :
    (scenarios.move spec).2.member? name member = scenarios.member? name member := by
  cases spec with
  | none => rfl
  | some spec =>
      cases declared : spec.newState with
      | none => simp [move, declared]
      | some state => simpa [move, declared] using member?_putState ..

theorem stateOf_move (scenarios : Scenarios) (spec : Option ScenarioSpec) (name : String) :
    (scenarios.move spec).2.stateOf name =
      (((scenarios.move spec).1.filter fun transition => transition.scenario == name).map
        Transition.after).getD (scenarios.stateOf name) := by
  cases spec with
  | none => rfl
  | some spec =>
      cases declared : spec.newState with
      | none => simp [move, declared]
      | some state =>
          simp only [move, declared, stateOf_putState, Option.filter_some, beq_iff_eq]
          by_cases same : spec.name = name
          · rw [if_pos same, if_pos same.symm]
            rfl
          · rw [if_neg same, if_neg (Ne.symm same)]
            rfl

theorem Occupied.move (occupied : scenarios.Occupied) {spec : Option ScenarioSpec}
    (listed : ∀ declared, spec = some declared → (scenarios.find? declared.name).isSome) :
    (scenarios.move spec).2.Occupied := by
  cases spec with
  | none => exact occupied
  | some spec =>
      cases declared : spec.newState with
      | none => simpa [Scenarios.move, declared] using occupied
      | some state =>
          simpa [Scenarios.move, declared] using occupied.putState (listed spec rfl) state

theorem moved_move (scenarios : Scenarios) (spec : Option ScenarioSpec) :
    Moved scenarios (scenarios.move spec).2 spec (scenarios.move spec).1 := by
  cases spec with
  | none => exact ⟨rfl, rfl⟩
  | some spec =>
      cases declared : spec.newState with
      | none => simp [Moved, move, declared]
      | some state =>
          simp only [Moved, move, declared, Option.bind_some, Option.map_some, find?_put_self,
            stateOf, true_and]
          intro other different
          exact find?_put_of_ne different ..

end Scenarios

end ServiceStub
