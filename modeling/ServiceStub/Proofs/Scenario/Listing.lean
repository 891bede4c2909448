import ServiceStub.Proofs.Assoc
import ServiceStub.Proofs.Scenario.Membership

namespace ServiceStub.Scenarios

variable {scenarios : Scenarios}

/-- The scenario with that name is shown, with that stub among its stubs. -/
def Lists (scenarios : Scenarios) (name : String) (id : Uuid) : Prop :=
  ∃ scenario ∈ scenarios.all, scenario.name = name ∧ id ∈ scenario.stubs

theorem names_all (scenarios : Scenarios) :
    scenarios.all.map Scenario.name = scenarios.entries.keys := by
  simp only [all, List.map_map]
  rfl

theorem mem_all_iff {scenario : Scenario} :
    scenario ∈ scenarios.all ↔
      ∃ name entry, scenarios.find? name = some entry ∧ entry.toScenario name = scenario := by
  simp only [all, find?, List.mem_map, Prod.exists, Table.mem_toList_iff]

theorem mem_stubs_iff {name : String} {entry : ScenarioEntry}
    (found : scenarios.find? name = some entry) {id : Uuid} :
    id ∈ (entry.toScenario name).stubs ↔ (scenarios.member? name id).isSome := by
  rw [ScenarioEntry.toScenario, Table.mem_keys_iff, member?, entry_of_find? found,
    Option.isSome_iff_exists]

theorem lists_iff {name : String} {id : Uuid} :
    scenarios.Lists name id ↔ (scenarios.member? name id).isSome := by
  constructor
  · rintro ⟨scenario, listed, sameName, member⟩
    obtain ⟨name, entry, found, rfl⟩ := mem_all_iff.mp listed
    exact sameName ▸ (mem_stubs_iff found).mp member
  · intro joined
    have found := find?_of_member? joined
    exact ⟨_, mem_all_iff.mpr ⟨name, _, found, rfl⟩, rfl, (mem_stubs_iff found).mpr joined⟩

theorem possibleStates_ascending (entry : ScenarioEntry) :
    entry.possibleStates.Pairwise (· < ·) :=
  List.pairwise_map.mpr (Assoc.ascending_ofList _)

theorem mem_possibleStates {name : String} {entry : ScenarioEntry}
    (found : scenarios.find? name = some entry) {value : String} :
    value ∈ entry.possibleStates ↔ value = Scenario.started ∨
      ∃ id spec, scenarios.member? name id = some spec ∧ value ∈ spec.states := by
  have values_iff (spec : ScenarioSpec) :
      spec ∈ entry.stubs.values ↔ ∃ id, scenarios.member? name id = some spec := by
    simp only [member?, entry_of_find? found, ← Table.mem_toList_iff, Table.values, Assoc.values,
      List.mem_map, Prod.exists, exists_eq_right]
  rw [ScenarioEntry.possibleStates, Assoc.mem_keys_ofList]
  simp only [Assoc.keys, List.map_map, Function.comp_def, List.map_id', List.mem_cons,
    List.mem_flatMap, values_iff]
  constructor
  · rintro (same | ⟨spec, ⟨id, joined⟩, named⟩)
    · exact .inl same
    · exact .inr ⟨id, spec, joined, named⟩
  · rintro (same | ⟨id, spec, joined, named⟩)
    · exact .inl same
    · exact .inr ⟨spec, ⟨id, joined⟩, named⟩

theorem mem_names_iff {name : String} :
    name ∈ scenarios.all.map Scenario.name ↔ (scenarios.find? name).isSome := by
  rw [names_all, Table.mem_keys_iff, Option.isSome_iff_exists]
  rfl

theorem setState_eq_error {name state : String}
    (unlisted : name ∉ scenarios.all.map Scenario.name) :
    scenarios.setState name state = .error (.scenarioNotFound name) := by
  rw [mem_names_iff, Option.not_isSome_iff_eq_none] at unlisted
  rw [setState, unlisted]

theorem all_setState {name state : String} {after : Scenarios}
    (done : scenarios.setState name state = .ok after) :
    after.all = scenarios.all.map fun scenario =>
      if scenario.name = name then { scenario with state } else scenario := by
  obtain ⟨listed, rfl⟩ := setState_eq_ok_iff.mp done
  obtain ⟨entry, found⟩ := Option.isSome_iff_exists.mp listed
  have known : name ∈ scenarios.entries.keys := Table.mem_keys_iff.mpr ⟨entry, found⟩
  have entries : (scenarios.put name { scenarios.entry name with state }).entries.toList = _ :=
    Assoc.insert_eq_map scenarios.entries.ascending known _
  rw [all, entries, all, List.map_map, List.map_map]
  refine List.map_congr_left fun ⟨key, held⟩ member => ?_
  simp only [Function.comp_apply]
  by_cases same : key = name
  · subst same
    rw [if_pos rfl, entry_of_find? (Table.mem_toList_iff.mp member)]
    exact (if_pos rfl).symm
  · rw [if_neg same]
    exact (if_neg same).symm

end ServiceStub.Scenarios
