import ServiceStub.Proofs.Server.Defaults

/-!
Which stubs there are once a server is back to its defaults.  A default stub is remembered even
when it is removed, and of several with one id the first comes back.
-/

namespace ServiceStub

def HttpStub.asDefault (stub : HttpStub) : HttpStub := { stub with persistent := true }

def firstOfEachId (stubs : List HttpStub) : List HttpStub :=
  stubs.eraseDupsBy fun later earlier => later.id == earlier.id

private theorem firstOfEachId_cons (stub : HttpStub) (rest : List HttpStub) :
    firstOfEachId (stub :: rest) = stub :: firstOfEachId (rest.filter (·.id ≠ stub.id)) := by
  rw [firstOfEachId, List.eraseDupsBy_cons, firstOfEachId]
  congr 2
  exact List.filter_congr fun other _ => by simp

namespace ServerState

variable {state : ServerState}

private theorem restoreDefault_of_taken {stub : HttpStub} (taken : stub.id ∈ state.stubs.ids) :
    state.restoreDefault stub = state := by
  rw [restoreDefault]
  split
  · next after added =>
      obtain ⟨stubs, stored, -⟩ := addStub_eq_ok_iff.mp added
      exact absurd taken (StubStore.add_eq_ok_iff.mp stored).1
  · rfl

private theorem restoreDefault_of_fresh {stub : HttpStub} (fresh : stub.id ∉ state.stubs.ids) :
    state.stubs.add stub = .ok (state.restoreDefault stub).stubs := by
  obtain ⟨stubs, stored⟩ : ∃ stubs, state.stubs.add stub = .ok stubs :=
    ⟨_, StubStore.add_eq_ok_iff.mpr ⟨fresh, rfl⟩⟩
  rw [restoreDefault, addStub_eq_ok_iff.mpr ⟨stubs, stored, rfl⟩]
  exact stored

private theorem find?_restoreDefault_of_fresh {stub : HttpStub} (fresh : stub.id ∉ state.stubs.ids)
    (id : Uuid) :
    (state.restoreDefault stub).stubs.find? id =
      if id = stub.id then some stub else state.stubs.find? id :=
  StubStore.find?_add (restoreDefault_of_fresh fresh) id

/-- What is registered again comes after what is there, without the stubs whose id is taken. -/
theorem toList_restoreDefaults (state : ServerState) (defaults : List HttpStub) :
    (defaults.foldl restoreDefault state).stubs.toList =
      state.stubs.toList ++ firstOfEachId (defaults.filter (·.id ∉ state.stubs.ids)) := by
  induction defaults generalizing state with
  | nil => exact (List.append_nil _).symm
  | cons stub rest induction =>
      rw [List.foldl_cons, induction]
      by_cases taken : stub.id ∈ state.stubs.ids
      · rw [restoreDefault_of_taken taken, List.filter_cons_of_neg (by simpa using taken)]
      · have stored := restoreDefault_of_fresh taken
        have listed : (state.restoreDefault stub).stubs.toList = state.stubs.toList ++ [stub] := by
          rw [(StubStore.add_eq_ok_iff.mp stored).2, StubStore.toList, List.map_append]
          rfl
        have others : rest.filter (·.id ∉ (state.stubs.ids ++ [Stub.id stub])) =
            (rest.filter (·.id ∉ state.stubs.ids)).filter (·.id ≠ stub.id) := by
          rw [List.filter_filter]
          exact List.filter_congr fun other _ => by
            simp [and_comm, show Stub.id stub = stub.id from rfl]
        rw [listed, StubStore.ids_add stored, others,
          List.filter_cons_of_pos (by simpa using taken), firstOfEachId_cons, List.append_assoc,
          List.singleton_append]

private theorem find?_restoreDefaults (state : ServerState) (defaults : List HttpStub) (id : Uuid) :
    (defaults.foldl restoreDefault state).stubs.find? id =
      (state.stubs.find? id).or (defaults.find? (·.id == id)) := by
  induction defaults generalizing state with
  | nil => rw [List.foldl_nil, List.find?_nil, Option.or_none]
  | cons stub rest induction =>
      rw [List.foldl_cons, induction]
      by_cases taken : stub.id ∈ state.stubs.ids
      · rw [restoreDefault_of_taken taken]
        by_cases asked : stub.id = id
        · obtain ⟨found, isFound⟩ :=
            Option.isSome_iff_exists.mp (StubStore.find?_isSome_iff.mpr (asked ▸ taken))
          rw [isFound, Option.some_or, Option.some_or]
        · rw [List.find?_cons_of_neg (by simpa using asked)]
      · rw [find?_restoreDefault_of_fresh taken]
        by_cases asked : stub.id = id
        · have absent := StubStore.find?_eq_none_iff.mpr (asked ▸ taken)
          rw [if_pos asked.symm, absent, List.find?_cons_of_pos (by simpa using asked),
            Option.some_or, Option.none_or]
        · rw [if_neg (Ne.symm asked), List.find?_cons_of_neg (by simpa using asked)]

private theorem toList_resetToDefaults (state : ServerState) :
    state.resetToDefaults.stubs.toList = firstOfEachId state.defaults := by
  have nobody : state.emptied.stubs.ids = [] := by rw [StubStore.ids, emptied_stubs, List.map_nil]
  rw [resetToDefaults_eq, toList_restoreDefaults, emptied_stubs, List.nil_append, nobody]
  congr 1
  exact List.filter_eq_self.mpr fun stub _ => by simp

private theorem readStub_resetToDefaults (state : ServerState) (id : Uuid) :
    state.resetToDefaults.readStub id = state.defaults.find? (·.id == id) := by
  have absent : state.emptied.stubs.find? id = none := by
    rw [StubStore.find?, emptied_stubs, List.find?_nil]
  rw [readStub, resetToDefaults_eq, find?_restoreDefaults, absent, Option.none_or]

variable {R : Type} [Scalar R]

private theorem addedDefaults_append (state : ServerState) (earlier later : List ServerOperation) :
    state.addedDefaults R (earlier ++ later) =
      state.addedDefaults R earlier ++ (state.run R earlier).addedDefaults R later := by
  induction earlier generalizing state with
  | nil => rfl
  | cons operation rest induction =>
      rw [List.cons_append, addedDefaults, induction, addedDefaults, List.append_assoc]
      rfl

private theorem addedDefault_of_ok {stub : HttpStub} {after : ServerState}
    (added : state.addDefaultStub stub = .ok after) :
    state.addedDefault (.http (.addDefaultStub stub)) = [stub] := by
  rw [addedDefault, added]

private theorem defaults_run (R : Type) [Scalar R] (journalLimit : Option Nat) (nearMissLimit : Nat)
    (history : List ServerOperation) :
    ((ofLimits journalLimit nearMissLimit).run R history).defaults =
      ((ofLimits journalLimit nearMissLimit).addedDefaults R history).map HttpStub.asDefault := by
  rw [(Extended.run (R := R) (ofLimits journalLimit nearMissLimit) history).defaults]
  rfl

private theorem find?_map_asDefault (stubs : List HttpStub) (id : Uuid) :
    (stubs.map HttpStub.asDefault).find? (·.id == id) =
      (stubs.find? (·.id == id)).map HttpStub.asDefault :=
  List.find?_map

/-- Back to its defaults a server has the first default stub of each id, in the order in which they
were registered.  So under the id of a default stub it has that stub, unless there was another
default stub with this id before. -/
theorem readStub_default (R : Type) [Scalar R] (journalLimit : Option Nat) (nearMissLimit : Nat)
    (before later : List ServerOperation) {stub : HttpStub} {after : ServerState}
    (added : ((ofLimits journalLimit nearMissLimit).run R before).addDefaultStub stub =
      .ok after) :
    let start := ofLimits journalLimit nearMissLimit
    let history := before ++ .http (.addDefaultStub stub) :: later
    let restored := (start.run R history).resetToDefaults
    restored.stubs.toList =
        firstOfEachId ((start.addedDefaults R history).map HttpStub.asDefault) ∧
      restored.readStub stub.id =
        some (((start.addedDefaults R before).find? (·.id == stub.id)).getD stub).asDefault := by
  intro start history restored
  have registered := defaults_run R journalLimit nearMissLimit history
  refine ⟨by rw [toList_resetToDefaults, registered], ?_⟩
  have split : start.addedDefaults R history =
      start.addedDefaults R before ++ stub ::
        ((start.run R before).perform R (.http (.addDefaultStub stub))).addedDefaults R later := by
    rw [addedDefaults_append, addedDefaults, addedDefault_of_ok added, List.singleton_append]
  rw [readStub_resetToDefaults, registered, find?_map_asDefault, split, List.find?_append,
    List.find?_cons_of_pos (by simp)]
  cases (start.addedDefaults R before).find? (·.id == stub.id) with
  | some first => rfl
  | none => rfl

theorem readStub_default_renewed :
    let start := ofLimits none 3
    let first : HttpStub := { id := .nil, name := some "first" }
    let second : HttpStub := { id := .nil, name := some "second" }
    let before : List ServerOperation :=
      [.http (.addDefaultStub first), .http (.removeStub .nil)]
    let restored :=
      (start.run Rat (before ++ [.http (.addDefaultStub second)])).resetToDefaults
    (∃ after, (start.run Rat before).addDefaultStub second = .ok after) ∧
      restored.readStub .nil = some first.asDefault := by
  intro start first second before restored
  have added : (start.run Rat before).addDefaultStub second =
      .ok (start.run Rat (before ++ [.http (.addDefaultStub second)])) := rfl
  exact ⟨⟨_, added⟩, (readStub_default Rat none 3 before [] added).2⟩

/-- A default stub does not come back if another one with its id was registered, and removed,
before it. -/
theorem default_not_restored :
    ¬ ∀ (before later : List ServerOperation) (stub : HttpStub) (after : ServerState),
      ((ofLimits none 3).run Rat before).addDefaultStub stub = .ok after →
        (∀ other ∈ after.addedDefaults Rat later, other.id ≠ stub.id) →
          (after.run Rat later).resetToDefaults.readStub stub.id = some stub.asDefault := by
  intro restored
  let first : HttpStub := { id := .nil, name := some "first" }
  let second : HttpStub := { id := .nil, name := some "second" }
  let before : List ServerOperation :=
    [.http (.addDefaultStub first), .http (.removeStub .nil)]
  have found := restored before [] second _ rfl (by simp [addedDefaults])
  have other : some first.asDefault = some second.asDefault := found
  have names : some "first" = some "second" := congrArg HttpStub.name (Option.some.inj other)
  exact absurd names (by decide)

end ServerState

end ServiceStub
