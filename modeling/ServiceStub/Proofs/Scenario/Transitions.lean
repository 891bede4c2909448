import ServiceStub.Proofs.Scenario.Membership
import Mathlib.Data.List.Infix

/-!
The state of a scenario over time.  Matches move it along an unbroken chain, and nothing else puts
it elsewhere but a request to do so or the loss of its last stub.
-/

namespace ServiceStub

/-- What can be asked of a table of scenarios.  Nothing is known about candidates: they may have
been found when the scenarios were in other states. -/
inductive ScenarioOperation (α : Type) where
  | addStub (id : Uuid) (spec : ScenarioSpec)
  | removeStub (id : Uuid) (spec : ScenarioSpec)
  | setState (name state : String)
  | resetScenario (name : String)
  | reset
  | clear
  | claim (candidates : List α)

/-- Changes that lead from one state to another, each beginning where the one before it ended. -/
def ChangeChain : (start : String) → (changes : List (String × String)) → (finish : String) → Prop
  | start, [], finish => start = finish
  | start, change :: changes, finish => change.1 = start ∧ ChangeChain change.2 changes finish

theorem ChangeChain.append {start middle finish : String} {first second : List (String × String)}
    (before : ChangeChain start first middle) (after : ChangeChain middle second finish) :
    ChangeChain start (first ++ second) finish := by
  induction first generalizing start with
  | nil =>
      cases before
      exact after
  | cons change rest induction => exact ⟨before.1, induction before.2⟩

namespace Scenarios

variable {α : Type} {specOf : α → Option ScenarioSpec} {scenarios : Scenarios} {name : String}

section Operations

variable (specOf)

def perform (scenarios : Scenarios) : ScenarioOperation α → Scenarios
  | .addStub id spec => scenarios.addStub id spec
  | .removeStub id spec => scenarios.removeStub id spec
  | .setState name state => (scenarios.setState name state).toOption.getD scenarios
  | .resetScenario name => (scenarios.resetScenario name).toOption.getD scenarios
  | .reset => scenarios.reset
  | .clear => {}
  | .claim candidates => (scenarios.claimFirst specOf candidates).2

def run (scenarios : Scenarios) (history : List (ScenarioOperation α)) : Scenarios :=
  history.foldl (perform specOf) scenarios

def reported (scenarios : Scenarios) (name : String) (candidates : List α) : Option Transition :=
  ((scenarios.claimFirst specOf candidates).1.bind Prod.snd).filter fun transition =>
    transition.scenario == name

/-- The change of a scenario that comes with an operation: the one that a claim reports, and
whatever else is seen to happen to the state. -/
def changes (scenarios : Scenarios) (name : String) : ScenarioOperation α → List (String × String)
  | .claim candidates =>
      (scenarios.reported specOf name candidates).toList.map fun transition =>
        (transition.before, transition.after)
  | operation =>
      let after := (scenarios.perform specOf operation).stateOf name
      if after = scenarios.stateOf name then [] else [(scenarios.stateOf name, after)]

def changesAlong (scenarios : Scenarios) (name : String) :
    List (ScenarioOperation α) → List (String × String)
  | [] => []
  | operation :: rest =>
      scenarios.changes specOf name operation ++
        changesAlong (scenarios.perform specOf operation) name rest

/-- An operation that may put a scenario into another state without a match: it says so, or it is
a removal that leaves the scenario without stubs, and so makes it go.  As a claim may bring back a
scenario that has no stubs, there need not be a last one that is removed. -/
def Puts (scenarios : Scenarios) (name : String) : ScenarioOperation α → Prop
  | .setState other _ => other = name
  | .resetScenario other => other = name
  | .reset => True
  | .clear => True
  | .removeStub id spec =>
      spec.name = name ∧ ∀ member, (scenarios.member? name member).isSome → member = id
  | .addStub _ _ => False
  | .claim _ => False

def Picks (scenarios : Scenarios) (name : String) (candidates : List α) : Prop :=
  ∃ picked transition spec, (scenarios.claimFirst specOf candidates).1 = some (picked, transition) ∧
    specOf picked = some spec ∧ spec.name = name

/-- Candidates that take part in the scenario require one state and leave it for another. -/
def Leaves (state name : String) (candidates : List α) : Prop :=
  ∀ candidate ∈ candidates, ∀ spec, specOf candidate = some spec → spec.name = name →
    spec.requiredState = some state ∧ ∃ next, spec.newState = some next ∧ next ≠ state

/-- What a claim comes to: the first candidate that the scenarios permit is picked, and a
transition is that of its scenario from the present state. -/
structure Claimed (scenarios : Scenarios) (candidates : List α)
    (outcome : Option (α × Option Transition) × Scenarios) : Prop where
  none_iff : outcome.1 = none ↔ ∀ candidate ∈ candidates, ¬ scenarios.permits (specOf candidate)
  first : ∀ picked transition, outcome.1 = some (picked, transition) →
    scenarios.permits (specOf picked) ∧
      ∃ skipped rest, candidates = skipped ++ picked :: rest ∧
        ∀ candidate ∈ skipped, ¬ scenarios.permits (specOf candidate)
  transition : ∀ picked transition, outcome.1 = some (picked, some transition) →
    ∃ spec, specOf picked = some spec ∧ spec.name = transition.scenario ∧
      spec.newState = some transition.after ∧
      transition.before = ((scenarios.get? spec.name).map Scenario.state).getD Scenario.started ∧
      (∀ required ∈ spec.requiredState, required = transition.before) ∧
      outcome.2.stateOf spec.name = transition.after
  still : ∀ picked, outcome.1 = some (picked, none) →
    outcome.2 = scenarios ∧ ∀ spec, specOf picked = some spec → spec.newState = none

/-- How the state of a scenario comes about along a history. -/
structure Traced (initial : Scenarios) (history : List (ScenarioOperation α)) (name : String) :
    Prop where
  claimed : ∀ earlier candidates, earlier ++ [.claim candidates] <+: history →
    Claimed specOf (initial.run specOf earlier) candidates
      ((initial.run specOf earlier).claimFirst specOf candidates)
  chained : ChangeChain (initial.stateOf name) (initial.changesAlong specOf name history)
    ((initial.run specOf history).stateOf name)
  between_claims : ∀ earlier operation, earlier ++ [operation] <+: history →
    (∀ candidates, operation = .claim candidates →
      (initial.run specOf earlier).reported specOf name candidates = none) →
    ¬ (initial.run specOf earlier).Puts name operation →
      (initial.run specOf (earlier ++ [operation])).stateOf name =
        (initial.run specOf earlier).stateOf name
  once : ∀ state,
    (∀ candidates, .claim candidates ∈ history → Leaves specOf state name candidates) →
    ∀ earlier first between second,
      earlier ++ .claim first :: (between ++ [.claim second]) <+: history →
      (initial.run specOf earlier).Picks specOf name first →
      (initial.run specOf (earlier ++ .claim first :: between)).Picks specOf name second →
      ∃ before operation, before ++ [operation] <+: between ∧
        (initial.run specOf (earlier ++ .claim first :: before)).Puts name operation ∧
        (initial.run specOf (earlier ++ .claim first :: before)).stateOf name ≠ state ∧
        (initial.run specOf (earlier ++ .claim first :: (before ++ [operation]))).stateOf name =
          state

end Operations

private theorem stateOf_eq_shown (scenarios : Scenarios) (name : String) :
    scenarios.stateOf name =
      ((scenarios.get? name).map Scenario.state).getD Scenario.started := by
  simp only [stateOf, Scenarios.entry, get?, Option.map_map]
  cases scenarios.find? name <;> rfl

private theorem ScenarioSpec.eq_of_permits {spec : ScenarioSpec} {current required : String}
    (permitted : spec.permits current) (declared : spec.requiredState = some required) :
    required = current := by
  rw [ScenarioSpec.permits, declared] at permitted
  exact beq_iff_eq.mp permitted

private theorem move_eq_none {spec : Option ScenarioSpec} (rests : (scenarios.move spec).1 = none) :
    (scenarios.move spec).2 = scenarios ∧
      ∀ declared, spec = some declared → declared.newState = none := by
  cases spec with
  | none => exact ⟨rfl, by simp⟩
  | some spec =>
      cases named : spec.newState with
      | none => simp [move, named]
      | some state => simp [move, named] at rests

private theorem move_eq_some {spec : Option ScenarioSpec} {transition : Transition}
    (moves : (scenarios.move spec).1 = some transition) :
    ∃ declared, spec = some declared ∧ declared.name = transition.scenario ∧
      declared.newState = some transition.after ∧
      transition.before = scenarios.stateOf declared.name := by
  cases spec with
  | none => simp [move] at moves
  | some spec =>
      cases named : spec.newState with
      | none => simp [move, named] at moves
      | some state =>
          simp only [move, named, Option.some.injEq] at moves
          subst moves
          exact ⟨spec, rfl, rfl, named, rfl⟩

private theorem claimFirst_cases (specOf : α → Option ScenarioSpec) (scenarios : Scenarios)
    (candidates : List α) :
    (scenarios.claimFirst specOf candidates = (none, scenarios) ∧
      ∀ candidate ∈ candidates, ¬ scenarios.permits (specOf candidate)) ∨
    ∃ picked skipped rest, candidates = skipped ++ picked :: rest ∧
      (∀ candidate ∈ skipped, ¬ scenarios.permits (specOf candidate)) ∧
      scenarios.permits (specOf picked) ∧
      scenarios.claimFirst specOf candidates =
        (some (picked, (scenarios.move (specOf picked)).1),
          (scenarios.move (specOf picked)).2) := by
  cases found : candidates.find? fun candidate => scenarios.permits (specOf candidate) with
  | none =>
      refine .inl ⟨by simp only [claimFirst, found], ?_⟩
      simpa using List.find?_eq_none.mp found
  | some picked =>
      obtain ⟨permitted, skipped, rest, split, refused⟩ := List.find?_eq_some_iff_append.mp found
      refine .inr ⟨picked, skipped, rest, split, ?_, permitted, by simp only [claimFirst, found]⟩
      simpa using refused

private theorem claimed_claimFirst (specOf : α → Option ScenarioSpec) (scenarios : Scenarios)
    (candidates : List α) :
    Claimed specOf scenarios candidates (scenarios.claimFirst specOf candidates) := by
  rcases claimFirst_cases specOf scenarios candidates with
    ⟨nobody, refused⟩ | ⟨picked, skipped, rest, split, refused, permitted, claimed⟩
  · rw [nobody]
    exact ⟨iff_of_true rfl refused, by simp, by simp, by simp⟩
  · rw [claimed]
    refine ⟨?_, ?_, ?_, ?_⟩
    · refine iff_of_false (Option.some_ne_none _) fun none => ?_
      exact none picked (split ▸ List.mem_append_cons_self) permitted
    · rintro other transition ⟨⟩
      exact ⟨permitted, skipped, rest, split, refused⟩
    · intro other transition same
      obtain ⟨rfl, moves⟩ := Prod.mk.inj (Option.some.inj same)
      obtain ⟨spec, declared, sameName, named, before⟩ := move_eq_some moves
      refine ⟨spec, declared, sameName, named, before.trans (stateOf_eq_shown ..), ?_, ?_⟩
      · intro required requires
        rw [declared] at permitted
        rw [before]
        exact ScenarioSpec.eq_of_permits permitted requires
      · rw [stateOf_move, moves, sameName]
        simp [Option.filter_some]
    · intro other same
      obtain ⟨rfl, rests⟩ := Prod.mk.inj (Option.some.inj same)
      exact move_eq_none rests

private theorem stateOf_claimFirst (specOf : α → Option ScenarioSpec) (scenarios : Scenarios)
    (candidates : List α) (name : String) :
    (scenarios.claimFirst specOf candidates).2.stateOf name =
      ((scenarios.reported specOf name candidates).map Transition.after).getD
        (scenarios.stateOf name) := by
  rcases claimFirst_cases specOf scenarios candidates with
    ⟨nobody, -⟩ | ⟨picked, -, -, -, -, -, claimed⟩
  · rw [reported, nobody]
    rfl
  · rw [reported, claimed]
    exact stateOf_move ..

private theorem before_of_reported {candidates : List α} {transition : Transition}
    (reports : scenarios.reported specOf name candidates = some transition) :
    transition.before = scenarios.stateOf name := by
  obtain ⟨claimed, sameName⟩ := Option.filter_eq_some_iff.mp reports
  obtain ⟨⟨picked, moved⟩, outcome, rfl⟩ := Option.bind_eq_some_iff.mp claimed
  obtain ⟨spec, -, scenario, -, before, -, -⟩ :=
    (claimed_claimFirst specOf scenarios candidates).transition picked transition outcome
  rw [before, ← stateOf_eq_shown, scenario, beq_iff_eq.mp sameName]

private theorem picks_of_reported {candidates : List α} {transition : Transition}
    (reports : scenarios.reported specOf name candidates = some transition) :
    scenarios.Picks specOf name candidates := by
  obtain ⟨claimed, sameName⟩ := Option.filter_eq_some_iff.mp reports
  obtain ⟨⟨picked, moved⟩, outcome, rfl⟩ := Option.bind_eq_some_iff.mp claimed
  obtain ⟨spec, declared, scenario, -⟩ :=
    (claimed_claimFirst specOf scenarios candidates).transition picked transition outcome
  exact ⟨picked, some transition, spec, outcome, declared, scenario.trans (beq_iff_eq.mp sameName)⟩

private theorem reported_of_picks {candidates : List α} {state : String}
    (leaves : Leaves specOf state name candidates)
    (picks : scenarios.Picks specOf name candidates) :
    ∃ transition, scenarios.reported specOf name candidates = some transition ∧
      transition.before = state ∧ transition.after ≠ state := by
  obtain ⟨picked, moved, spec, outcome, declared, sameName⟩ := picks
  have claimed := claimed_claimFirst specOf scenarios candidates
  obtain ⟨-, skipped, rest, split, -⟩ := claimed.first picked moved outcome
  obtain ⟨required, next, moves, different⟩ :=
    leaves picked (split ▸ List.mem_append_cons_self) spec declared sameName
  cases moved with
  | none => simp [(claimed.still picked outcome).2 spec declared] at moves
  | some transition =>
      obtain ⟨other, sameSpec, scenario, named, -, requires, -⟩ :=
        claimed.transition picked transition outcome
      cases declared.symm.trans sameSpec
      refine ⟨transition, ?_, (requires state required).symm, ?_⟩
      · simp [reported, outcome, ← scenario, sameName, Option.filter_some]
      · rw [Option.some.inj (moves.symm.trans named)] at different
        exact different

private theorem stateOf_claimFirst_ne {candidates : List α} {state : String}
    (leaves : Leaves specOf state name candidates) (away : scenarios.stateOf name ≠ state) :
    (scenarios.claimFirst specOf candidates).2.stateOf name ≠ state := by
  rw [stateOf_claimFirst]
  cases reports : scenarios.reported specOf name candidates with
  | none => exact away
  | some transition =>
      obtain ⟨other, same, -, left⟩ := reported_of_picks leaves (picks_of_reported reports)
      rw [Option.some.inj (reports.symm.trans same)]
      exact left

private theorem stateOf_toOption_setState (scenarios : Scenarios) {name other : String}
    (different : name ≠ other) (state : String) :
    ((scenarios.setState other state).toOption.getD scenarios).stateOf name =
      scenarios.stateOf name := by
  cases done : scenarios.setState other state with
  | error error => rfl
  | ok after =>
      obtain ⟨-, rfl⟩ := setState_eq_ok_iff.mp done
      exact (stateOf_putState ..).trans (if_neg different)

private theorem stateOf_perform {operation : ScenarioOperation α}
    (unreported : ∀ candidates, operation = .claim candidates →
      scenarios.reported specOf name candidates = none)
    (kept : ¬ scenarios.Puts name operation) :
    (scenarios.perform specOf operation).stateOf name = scenarios.stateOf name := by
  cases operation with
  | addStub id spec => exact stateOf_addStub ..
  | removeStub id spec =>
      by_cases same : spec.name = name
      · simp only [Puts, same, true_and, not_forall] at kept
        obtain ⟨member, joined, different⟩ := kept
        apply stateOf_removeStub
        rwa [member?_removeStub, if_neg fun both => different both.2]
      · simp only [perform, stateOf, entry, find?_removeStub_of_ne (Ne.symm same)]
  | setState other state => exact stateOf_toOption_setState scenarios (Ne.symm kept) state
  | resetScenario other => exact stateOf_toOption_setState scenarios (Ne.symm kept) _
  | reset => exact absurd trivial kept
  | clear => exact absurd trivial kept
  | claim candidates =>
      rw [perform, stateOf_claimFirst, unreported candidates rfl]
      rfl

@[simp] theorem run_cons (specOf : α → Option ScenarioSpec) (scenarios : Scenarios)
    (operation : ScenarioOperation α) (history : List (ScenarioOperation α)) :
    scenarios.run specOf (operation :: history) =
      (scenarios.perform specOf operation).run specOf history := rfl

theorem run_append (specOf : α → Option ScenarioSpec) (scenarios : Scenarios)
    (earlier later : List (ScenarioOperation α)) :
    scenarios.run specOf (earlier ++ later) =
      (scenarios.run specOf earlier).run specOf later :=
  List.foldl_append

private theorem changeChain_perform (specOf : α → Option ScenarioSpec) (scenarios : Scenarios)
    (name : String) (operation : ScenarioOperation α) :
    ChangeChain (scenarios.stateOf name) (scenarios.changes specOf name operation)
      ((scenarios.perform specOf operation).stateOf name) := by
  unfold changes
  split
  · next candidates =>
      rw [perform, stateOf_claimFirst]
      cases reports : scenarios.reported specOf name candidates with
      | none => rfl
      | some transition => exact ⟨before_of_reported reports, rfl⟩
  · dsimp only
    split
    · next same => exact same.symm
    · exact ⟨rfl, rfl⟩

private theorem changeChain_run (specOf : α → Option ScenarioSpec) (scenarios : Scenarios)
    (name : String) (history : List (ScenarioOperation α)) :
    ChangeChain (scenarios.stateOf name) (scenarios.changesAlong specOf name history)
      ((scenarios.run specOf history).stateOf name) := by
  induction history generalizing scenarios with
  | nil => rfl
  | cons operation rest induction =>
      exact (changeChain_perform specOf scenarios name operation).append (induction _)

/-- A scenario that claims lead out of a state comes back to it only if it is put there. -/
theorem puts_of_run_stateOf {state : String} {history : List (ScenarioOperation α)}
    (leaves : ∀ candidates, .claim candidates ∈ history → Leaves specOf state name candidates)
    (away : scenarios.stateOf name ≠ state)
    (back : (scenarios.run specOf history).stateOf name = state) :
    ∃ before operation, before ++ [operation] <+: history ∧
      (scenarios.run specOf before).Puts name operation ∧
      (scenarios.run specOf before).stateOf name ≠ state ∧
      (scenarios.run specOf (before ++ [operation])).stateOf name = state := by
  induction history generalizing scenarios with
  | nil => exact absurd back away
  | cons operation rest induction =>
      -- An operation that arrives from elsewhere is the one; up to it the state stays elsewhere.
      by_cases arrived : (scenarios.perform specOf operation).stateOf name = state
      · refine ⟨[], operation, List.prefix_append .., ?_, away, arrived⟩
        by_contra kept
        have unclaimed : ∀ candidates, operation ≠ .claim candidates := by
          rintro candidates rfl
          exact stateOf_claimFirst_ne (leaves candidates List.mem_cons_self) away arrived
        have same : (scenarios.perform specOf operation).stateOf name = scenarios.stateOf name :=
          stateOf_perform (fun candidates claims => absurd claims (unclaimed candidates)) kept
        exact away (same.symm.trans arrived)
      · obtain ⟨before, putting, within, puts, elsewhere, there⟩ :=
          induction (fun candidates later => leaves candidates (List.mem_cons_of_mem _ later))
            arrived back
        exact ⟨operation :: before, putting, List.cons_prefix_cons.mpr ⟨rfl, within⟩, puts,
          elsewhere, there⟩

theorem traced_run (specOf : α → Option ScenarioSpec) (initial : Scenarios)
    (history : List (ScenarioOperation α)) (name : String) :
    Traced specOf initial history name where
  claimed earlier candidates _ := claimed_claimFirst ..
  chained := changeChain_run ..
  between_claims earlier operation _ unreported kept := by
    rw [run_append]
    exact stateOf_perform unreported kept
  once state leaves earlier first between second within picksFirst picksSecond := by
    have leavesWithin : ∀ candidates,
        .claim candidates ∈ .claim first :: (between ++ [.claim second]) →
          Leaves specOf state name candidates := by
      intro candidates member
      exact leaves candidates (within.subset (List.mem_append_right earlier member))
    rw [run_append] at picksSecond
    have left := reported_of_picks (leavesWithin first List.mem_cons_self) picksFirst
    obtain ⟨transition, reports, -, away⟩ := left
    obtain ⟨again, reportsAgain, rfl, -⟩ :=
      reported_of_picks (leavesWithin second (by simp)) picksSecond
    have elsewhere : ((initial.run specOf earlier).perform specOf (.claim first)).stateOf name ≠
        again.before := by
      rw [perform, stateOf_claimFirst, reports]
      exact away
    obtain ⟨before, operation, prior, puts, apart, there⟩ :=
      puts_of_run_stateOf
        (fun candidates member => leavesWithin candidates (by simp [member])) elsewhere
        (before_of_reported reportsAgain).symm
    exact ⟨before, operation, prior, by simpa [run_append] using puts,
      by simpa [run_append] using apart, by simpa [run_append] using there⟩

/-- A removal may also find a scenario that a claim has brought back and that has no stub.  Its
state is lost although no last stub is removed. -/
theorem not_moved_on_after_removeStub :
    let spec : ScenarioSpec := { name := "flow", newState := some "Done" }
    let claims : List (ScenarioOperation ScenarioSpec) := [.claim [spec]]
    let moved := { scenario := "flow", before := "Started", after := "Done" }
    let claimed := ({} : Scenarios).run some claims
    ({} : Scenarios).reported some "flow" [spec] = some moved ∧
      (∀ id, claimed.member? "flow" id = none) ∧
      (claimed.perform some (.removeStub ⟨1⟩ spec)).reported some "flow" [spec] = some moved := by
  refine ⟨rfl, fun id => rfl, rfl⟩

end Scenarios

end ServiceStub
