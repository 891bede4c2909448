import ServiceStub.Proofs.Server.Restoration
import ServiceStub.Stub.File

/-!
Loading a directory of stubs.  All of it is read before anything is registered, but the default
stubs are registered one after the other, and those that were registered before one is refused
stay.
-/

namespace ServiceStub.ServerState

variable {fresh : Nat → Uuid} {state after : ServerState} {definitions : List HttpStubDefinition}

/-- All definitions of a list have become default stubs of a server, the first one with the fresh
id at a position. -/
inductive Registers (fresh : Nat → Uuid) :
    Nat → List HttpStubDefinition → ServerState → ServerState → Prop where
  | nil {position : Nat} {state : ServerState} : Registers fresh position [] state state
  | cons {position : Nat} {definition : HttpStubDefinition} {rest : List HttpStubDefinition}
      {stub : HttpStub} {state next after : ServerState}
      (compiled : definition.compile (fresh position) = .ok stub)
      (added : state.addDefaultStub stub = .ok next)
      (others : Registers fresh (position + 1) rest next after) :
      Registers fresh position (definition :: rest) state after

/-- A definition does not become a default stub of a server, since no stub can be built of it or
since its id is taken. -/
inductive Refuses (fresh : Nat → Uuid) (position : Nat) (definition : HttpStubDefinition)
    (state : ServerState) : StateError → Prop where
  | invalid {error : StateError} (refused : definition.compile (fresh position) = .error error) :
      Refuses fresh position definition state error
  | taken {stub : HttpStub} {error : StateError}
      (compiled : definition.compile (fresh position) = .ok stub)
      (refused : state.addDefaultStub stub = .error error) :
      Refuses fresh position definition state error

/-- The default stubs that the definitions of a list describe, the first one with the fresh id at a
position. -/
def Describe (fresh : Nat → Uuid) (position : Nat) (definitions : List HttpStubDefinition)
    (stubs : List HttpStub) : Prop :=
  List.Forall₂
    (fun definition stub => ∃ built, definition.1.compile (fresh definition.2) = .ok built ∧
      stub = built.asDefault)
    (definitions.zipIdx position) stubs

private theorem addDefaultDefinitions_eq_ok_iff {position : Nat} :
    state.addDefaultDefinitions fresh position definitions = (.ok (), after) ↔
      Registers fresh position definitions state after := by
  constructor
  · intro registered
    fun_induction addDefaultDefinitions fresh state position definitions with
    | case1 state position =>
        cases registered
        exact .nil
    | case2 => cases registered
    | case3 => cases registered
    | case4 state position definition rest stub compiled next added induction =>
        exact .cons compiled added (induction registered)
  · intro registers
    induction registers with
    | nil => rfl
    | cons compiled added others induction =>
        simp only [addDefaultDefinitions, compiled, added]
        exact induction

private theorem addDefaultDefinitions_eq_error_iff {position : Nat} {error : StubFileError} :
    state.addDefaultDefinitions fresh position definitions = (.error error, after) ↔
      ∃ accepted refused rest cause, definitions = accepted ++ refused :: rest ∧
        error = .refused cause ∧ Registers fresh position accepted state after ∧
        Refuses fresh (position + accepted.length) refused after cause := by
  constructor
  · intro stopped
    fun_induction addDefaultDefinitions fresh state position definitions with
    | case1 => cases stopped
    | case2 state position definition rest cause refused =>
        cases stopped
        exact ⟨[], definition, rest, cause, rfl, rfl, .nil, .invalid refused⟩
    | case3 state position definition rest stub compiled cause refused =>
        cases stopped
        exact ⟨[], definition, rest, cause, rfl, rfl, .nil, .taken compiled refused⟩
    | case4 state position definition rest stub compiled next added induction =>
        obtain ⟨accepted, refused, later, cause, rfl, rfl, registers, refuses⟩ :=
          induction stopped
        refine ⟨definition :: accepted, refused, later, cause, rfl, rfl,
          .cons compiled added registers, ?_⟩
        rwa [List.length_cons, ← Nat.add_assoc, Nat.add_right_comm]
  · rintro ⟨accepted, refused, rest, cause, rfl, rfl, registers, refuses⟩
    induction registers with
    | nil =>
        rw [List.length_nil, Nat.add_zero] at refuses
        cases refuses with
        | invalid refused => simp [addDefaultDefinitions, refused]
        | taken compiled refused => simp [addDefaultDefinitions, compiled, refused]
    | cons compiled added others induction =>
        simp only [List.cons_append, addDefaultDefinitions, compiled, added]
        refine induction ?_
        rwa [List.length_cons, ← Nat.add_assoc, Nat.add_right_comm] at refuses

private theorem Registers.appended {position : Nat}
    (registers : Registers fresh position definitions state after) :
    ∃ stubs, Describe fresh position definitions stubs ∧
      after.stubs.toList = state.stubs.toList ++ stubs ∧
      after = { state with
        stubs := after.stubs
        scenarios := stubs.foldl (fun scenarios stub => joinScenario stub scenarios) state.scenarios
        defaults := state.defaults ++ stubs } := by
  induction registers with
  | nil => exact ⟨[], .nil, (List.append_nil _).symm, by simp⟩
  | @cons position definition rest built state next after compiled added others induction =>
      obtain ⟨stubs, described, listed, rebuilt⟩ := induction
      obtain ⟨registered, stored, rfl⟩ := addDefaultStub_eq_ok_iff.mp added
      obtain ⟨store, kept, rfl⟩ := addStub_eq_ok_iff.mp stored
      obtain ⟨-, rfl⟩ := StubStore.add_eq_ok_iff.mp kept
      refine ⟨built.asDefault :: stubs, .cons ⟨built, compiled, rfl⟩ described, ?_, ?_⟩
      · rw [listed]
        simp [StubStore.toList, HttpStub.asDefault]
      · rw [rebuilt]
        simp [HttpStub.asDefault]

private theorem Registers.unchanged_iff {position : Nat}
    (registers : Registers fresh position definitions state after) :
    after.stubs = state.stubs ∧ after.scenarios = state.scenarios ∧
      after.defaults = state.defaults ↔ definitions = [] := by
  constructor
  · rintro ⟨-, -, same⟩
    obtain ⟨stubs, described, -, rebuilt⟩ := registers.appended
    have grown : after.defaults = state.defaults ++ stubs := congrArg defaults rebuilt
    have none : stubs = [] := List.append_right_eq_self.mp (grown.symm.trans same)
    simpa [none] using described.length_eq
  · rintro rfl
    cases registers
    exact ⟨rfl, rfl, rfl⟩

private theorem loadDefaultStubs_eq_ok_iff {directory : StubDirectory} {count : Nat} :
    state.loadDefaultStubs fresh directory = (.ok count, after) ↔
      ∃ definitions, directory.definitions = .ok definitions ∧ count = definitions.length ∧
        Registers fresh 0 definitions state after := by
  rw [loadDefaultStubs]
  cases read : directory.definitions with
  | error error => simp
  | ok definitions =>
      simp only [Except.ok.injEq, exists_eq_left', ← addDefaultDefinitions_eq_ok_iff]
      cases attempt : state.addDefaultDefinitions fresh 0 definitions with
      | mk result last => cases result with
        | error error => simp [Except.map]
        | ok _ => simp [Except.map, eq_comm]

private theorem loadDefaultStubs_eq_error_iff {directory : StubDirectory} {error : StubFileError} :
    state.loadDefaultStubs fresh directory = (.error error, after) ↔
      directory.definitions = .error error ∧ after = state ∨
      ∃ accepted refused rest cause,
        directory.definitions = .ok (accepted ++ refused :: rest) ∧ error = .refused cause ∧
          Registers fresh 0 accepted state after ∧
          Refuses fresh accepted.length refused after cause := by
  rw [loadDefaultStubs]
  cases read : directory.definitions with
  | error other => simp [eq_comm]
  | ok definitions =>
      have stopped : state.addDefaultDefinitions fresh 0 definitions = (.error error, after) ↔ _ :=
        addDefaultDefinitions_eq_error_iff
      simp only [Nat.zero_add] at stopped
      simp only [reduceCtorEq, false_and, false_or, Except.ok.injEq, ← stopped]
      cases attempt : state.addDefaultDefinitions fresh 0 definitions with
      | mk result last => cases result with
        | error error => simp [Except.map]
        | ok _ => simp [Except.map]

/-- A directory is loaded as far as its definitions can be registered.  Nothing changes if it cannot
be read, but the definitions before a refused one are default stubs afterwards. -/
theorem loads_until_refused (fresh : Nat → Uuid) (state : ServerState)
    (directory : StubDirectory) :
    (∀ count after, state.loadDefaultStubs fresh directory = (.ok count, after) ↔
      ∃ definitions, directory.definitions = .ok definitions ∧ count = definitions.length ∧
        Registers fresh 0 definitions state after) ∧
      (∀ error after, state.loadDefaultStubs fresh directory = (.error error, after) ↔
        directory.definitions = .error error ∧ after = state ∨
        ∃ accepted refused rest cause,
          directory.definitions = .ok (accepted ++ refused :: rest) ∧ error = .refused cause ∧
            Registers fresh 0 accepted state after ∧
            Refuses fresh accepted.length refused after cause) ∧
      ∀ accepted after, Registers fresh 0 accepted state after →
        (∃ stubs, Describe fresh 0 accepted stubs ∧
          after.stubs.toList = state.stubs.toList ++ stubs ∧
          after = { state with
            stubs := after.stubs
            scenarios :=
              stubs.foldl (fun scenarios stub => joinScenario stub scenarios) state.scenarios
            defaults := state.defaults ++ stubs }) ∧
          (after.stubs = state.stubs ∧ after.scenarios = state.scenarios ∧
            after.defaults = state.defaults ↔ accepted = []) :=
  ⟨fun _ _ => loadDefaultStubs_eq_ok_iff, fun _ _ => loadDefaultStubs_eq_error_iff,
    fun _ _ registers => ⟨registers.appended, registers.unchanged_iff⟩⟩

def idAt (position : Nat) : Uuid := ⟨BitVec.ofNat 128 position⟩

/-- Of two files the second one declares a state without a scenario. -/
def halfValidDirectory : StubDirectory :=
  { files := some
      [⟨"a.json", Text.toBytes "\x7b\"name\":\"a\"\x7d"⟩,
        ⟨"b.json", Text.toBytes "\x7b\"requiredScenarioState\":\"Done\"\x7d"⟩] }

private theorem halfValidDirectory_refused :
    ∃ after, (ofLimits none 3).loadDefaultStubs idAt halfValidDirectory =
        (.error (.refused .stateWithoutScenario), after) ∧ after.defaults.length = 1 := by
  have refused : ((ofLimits none 3).loadDefaultStubs idAt halfValidDirectory).1 =
      .error (.refused .stateWithoutScenario) := by decide +kernel
  have kept : ((ofLimits none 3).loadDefaultStubs idAt halfValidDirectory).2.defaults.length =
      1 := by decide +kernel
  cases loaded : (ofLimits none 3).loadDefaultStubs idAt halfValidDirectory with
  | mk result after =>
      rw [loaded] at refused kept
      exact ⟨after, congrArg (·, after) refused, kept⟩

theorem loads_until_refused_second :
    ∃ accepted after,
      (ofLimits none 3).loadDefaultStubs idAt halfValidDirectory =
          (.error (.refused .stateWithoutScenario), after) ∧
        Registers idAt 0 accepted (ofLimits none 3) after ∧ accepted ≠ [] := by
  obtain ⟨-, stops, extended⟩ := loads_until_refused idAt (ofLimits none 3) halfValidDirectory
  obtain ⟨after, stopped, kept⟩ := halfValidDirectory_refused
  have changed : after.defaults ≠ (ofLimits none 3).defaults := by
    intro same
    rw [same] at kept
    exact absurd kept (by decide)
  rcases (stops _ _).mp stopped with ⟨-, rfl⟩ | ⟨accepted, _, _, _, -, -, registers, -⟩
  · exact absurd rfl changed
  · exact ⟨accepted, after, stopped, registers, fun none =>
      changed ((extended accepted after registers).2.mpr none).2.2⟩

/-- Loading is not all or nothing: what precedes a refused definition becomes a default stub. -/
theorem refused_load_not_undone :
    ¬ ∀ (fresh : Nat → Uuid) (state : ServerState) (directory : StubDirectory)
        (error : StubFileError) (after : ServerState),
      state.loadDefaultStubs fresh directory = (.error error, after) →
        after.stubs = state.stubs ∧ after.scenarios = state.scenarios ∧
          after.defaults = state.defaults := by
  intro undone
  obtain ⟨after, stopped, kept⟩ := halfValidDirectory_refused
  obtain ⟨-, -, same⟩ := undone idAt (ofLimits none 3) halfValidDirectory _ after stopped
  rw [same] at kept
  exact absurd kept (by decide)

end ServiceStub.ServerState
