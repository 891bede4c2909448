import ServiceStub.Proofs.Stub.History
import ServiceStub.Stub.Http

/-!
A store as a map from ids to stubs that keeps the order in which the ids were registered, and the
number that each of them was given.
-/

namespace ServiceStub

inductive StoreAnswer (S : Type) where
  | done
  | refused (error : StateError)
  | taken (stub : Option S)
  | removed (stubs : List S)

/-- The places of the ids that are known, in the order of their registration, and the stub of each
of them. -/
structure InsertionMap (S : Type) where
  places : List (Uuid × Nat)
  lookup : Uuid → Option S
  next : Nat

namespace InsertionMap

variable {S Input : Type} [Stub S Input]

def entries (map : InsertionMap S) : List (StubEntry S) :=
  map.places.filterMap fun place => (map.lookup place.1).map (StubEntry.mk place.2)

def stubs (map : InsertionMap S) : List S := map.entries.map StubEntry.stub

def keep (map : InsertionMap S) (condition : S → Bool) : InsertionMap S :=
  { map with
    places := map.places.filter fun place => ((map.lookup place.1).filter condition).isSome
    lookup := fun id => (map.lookup id).filter condition }

def put (map : InsertionMap S) (stub : S) : Uuid → Option S :=
  fun id => if id = Stub.id stub then some stub else map.lookup id

def step (map : InsertionMap S) : StoreOperation S → StoreAnswer S × InsertionMap S
  | .add stub =>
      match map.lookup (Stub.id stub) with
      | some _ => (.refused (.duplicateStub (Stub.id stub)), map)
      | none =>
          (.done,
            { places := map.places ++ [(Stub.id stub, map.next)]
              lookup := map.put stub
              next := map.next + 1 })
  | .replace stub =>
      match map.lookup (Stub.id stub) with
      | some _ => (.done, { map with lookup := map.put stub })
      | none => (.refused (.stubNotFound (Stub.id stub)), map)
  | .remove id =>
      (.taken (map.lookup id),
        { map with
          places := map.places.filter fun place => place.1 != id
          lookup := fun other => if other = id then none else map.lookup other })
  | .removeWhere condition =>
      (.removed (map.stubs.filter condition), map.keep fun stub => !condition stub)

def run (history : List (StoreOperation S)) : InsertionMap S :=
  history.foldl (fun map operation => (map.step operation).2)
    { places := [], lookup := fun _ => none, next := 0 }

end InsertionMap

def StoreOperation.reset {S : Type} (keep : S → Bool) : StoreOperation S :=
  .removeWhere fun stub => !keep stub

namespace StubStore

variable {S Input : Type} [Stub S Input] {store : StubStore S}

def answer (store : StubStore S) : StoreOperation S → StoreAnswer S
  | .add stub => match store.add stub with
    | .ok _ => .done
    | .error error => .refused error
  | .replace stub => match store.replace stub with
    | .ok _ => .done
    | .error error => .refused error
  | .remove id => .taken (store.remove id).1
  | .removeWhere condition => .removed (store.removeWhere condition).1

def toMap (store : StubStore S) : InsertionMap S :=
  { places := store.entries.map fun entry => (Stub.id entry.stub, entry.seq)
    lookup := store.find?
    next := store.nextSeq }

private theorem Numbered.find?_of_entry (numbered : store.Numbered) {entry : StubEntry S}
    (member : entry ∈ store.entries) : store.find? (Stub.id entry.stub) = some entry.stub :=
  numbered.find?_iff.mpr ⟨mem_toList.mpr ⟨entry, member, rfl⟩, rfl⟩

private theorem Numbered.entries_toMap (numbered : store.Numbered) :
    store.toMap.entries = store.entries := by
  rw [InsertionMap.entries, toMap, List.filterMap_map]
  calc
    _ = store.entries.filterMap some :=
      List.filterMap_congr fun entry member => by simp [numbered.find?_of_entry member]
    _ = store.entries := List.filterMap_some

private theorem Numbered.stubs_toMap (numbered : store.Numbered) :
    store.toMap.stubs = store.toList := by
  rw [InsertionMap.stubs, numbered.entries_toMap]
  rfl

private theorem Numbered.toMap_removeWhere (numbered : store.Numbered) (condition : S → Bool) :
    (store.removeWhere condition).2.toMap = store.toMap.keep fun stub => !condition stub := by
  rw [InsertionMap.keep, toMap, InsertionMap.mk.injEq]
  refine ⟨?_, funext (numbered.find?_removeWhere condition), rfl⟩
  rw [toMap, List.filter_map]
  refine congrArg _ (List.filter_congr fun entry member => ?_)
  simp [numbered.find?_of_entry member]

private theorem Numbered.toMap_remove (numbered : store.Numbered) (id : Uuid) :
    (store.remove id).2.toMap =
      { store.toMap with
        places := store.toMap.places.filter fun place => place.1 != id
        lookup := fun other => if other = id then none else store.find? other } := by
  rw [remove_snd, toMap, InsertionMap.mk.injEq]
  refine ⟨?_, ?_, rfl⟩
  · rw [toMap, List.filter_map]
    rfl
  · funext other
    rw [numbered.find?_removeWhere]
    cases found : store.find? other with
    | none => simp
    | some stub =>
        obtain ⟨-, rfl⟩ := find?_sound found
        by_cases same : Stub.id stub = id
        · simp [same]
        · simp [same]

private theorem toMap_add {stub : S} {after : StubStore S} (added : store.add stub = .ok after) :
    after.toMap =
      { places := store.toMap.places ++ [(Stub.id stub, store.nextSeq)]
        lookup := store.toMap.put stub
        next := store.nextSeq + 1 } := by
  have lookup : after.find? = store.toMap.put stub := funext (find?_add added)
  obtain ⟨-, rfl⟩ := add_eq_ok_iff.mp added
  rw [toMap, lookup]
  simp [toMap]

private theorem Numbered.toMap_replace (numbered : store.Numbered) {stub : S} {after : StubStore S}
    (replaced : store.replace stub = .ok after) :
    after.toMap = { store.toMap with lookup := store.toMap.put stub } := by
  have lookup : after.find? = store.toMap.put stub :=
    funext (numbered.find?_replace replaced)
  obtain ⟨-, rfl⟩ := replace_eq_ok_iff.mp replaced
  rw [toMap, lookup, InsertionMap.mk.injEq]
  refine ⟨?_, rfl, rfl⟩
  rw [toMap, List.map_map]
  refine List.map_congr_left fun entry _ => ?_
  by_cases same : Stub.id entry.stub = Stub.id stub
  · simp [same]
  · simp [same]

private theorem add_cases (store : StubStore S) (stub : S) :
    Stub.id stub ∉ store.ids ∧ store.add stub = .ok (store.perform (.add stub)) ∧
        store.answer (.add stub) = .done ∨
      Stub.id stub ∈ store.ids ∧ store.perform (.add stub) = store ∧
        store.answer (.add stub) = .refused (.duplicateStub (Stub.id stub)) := by
  rw [perform, answer]
  by_cases known : Stub.id stub ∈ store.ids
  · have refused : store.add stub = .error (.duplicateStub (Stub.id stub)) := by
      simp [add, find?_isSome_iff, known]
    rw [refused]
    exact .inr ⟨known, rfl, rfl⟩
  · have added := add_eq_ok_iff.mpr ⟨known, rfl⟩
    rw [added]
    exact .inl ⟨known, rfl, rfl⟩

private theorem replace_cases (store : StubStore S) (stub : S) :
    Stub.id stub ∈ store.ids ∧ store.replace stub = .ok (store.perform (.replace stub)) ∧
        store.answer (.replace stub) = .done ∨
      Stub.id stub ∉ store.ids ∧ store.perform (.replace stub) = store ∧
        store.answer (.replace stub) = .refused (.stubNotFound (Stub.id stub)) := by
  rw [perform, answer]
  by_cases known : Stub.id stub ∈ store.ids
  · have replaced := replace_eq_ok_iff.mpr ⟨known, rfl⟩
    rw [replaced]
    exact .inl ⟨known, rfl, rfl⟩
  · have refused : store.replace stub = .error (.stubNotFound (Stub.id stub)) := by
      simp [replace, find?_isSome_iff, known]
    rw [refused]
    exact .inr ⟨known, rfl, rfl⟩

private theorem lookup_toMap_of_new {id : Uuid} (new : id ∉ store.ids) :
    store.toMap.lookup id = none :=
  find?_eq_none_iff.mpr new

private theorem exists_lookup_toMap {id : Uuid} (known : id ∈ store.ids) :
    ∃ stub, store.toMap.lookup id = some stub :=
  Option.isSome_iff_exists.mp (find?_isSome_iff.mpr known)

/-- An operation does to the store what it does to the map, and gets the same answer. -/
theorem Numbered.toMap_perform (numbered : store.Numbered) (operation : StoreOperation S) :
    (store.answer operation, (store.perform operation).toMap) = store.toMap.step operation := by
  cases operation with
  | add stub =>
      rw [InsertionMap.step]
      rcases store.add_cases stub with ⟨new, added, answered⟩ | ⟨known, stays, answered⟩
      · rw [answered, toMap_add added, lookup_toMap_of_new new]
        rfl
      · obtain ⟨other, found⟩ := exists_lookup_toMap known
        rw [answered, stays, found]
  | replace stub =>
      rw [InsertionMap.step]
      rcases store.replace_cases stub with ⟨known, replaced, answered⟩ | ⟨new, stays, answered⟩
      · obtain ⟨other, found⟩ := exists_lookup_toMap known
        rw [answered, numbered.toMap_replace replaced, found]
      · rw [answered, stays, lookup_toMap_of_new new]
  | remove id =>
      rw [answer, StubStore.perform, InsertionMap.step, remove_fst, numbered.toMap_remove]
      rfl
  | removeWhere condition =>
      rw [answer, StubStore.perform, InsertionMap.step, removeWhere_fst, numbered.stubs_toMap,
        numbered.toMap_removeWhere]

private theorem perform_of_refused {operation : StoreOperation S} {error : StateError}
    (refused : store.answer operation = .refused error) : store.perform operation = store := by
  cases operation with
  | add stub =>
      rcases store.add_cases stub with ⟨-, -, answered⟩ | ⟨-, stays, -⟩
      · cases answered.symm.trans refused
      · exact stays
  | replace stub =>
      rcases store.replace_cases stub with ⟨-, -, answered⟩ | ⟨-, stays, -⟩
      · cases answered.symm.trans refused
      · exact stays
  | remove id => cases refused
  | removeWhere condition => cases refused

private theorem exists_add_of_new {operation : StoreOperation S} {id : Uuid}
    (known : id ∈ (store.perform operation).ids) (new : id ∉ store.ids) :
    ∃ stub, operation = .add stub ∧ Stub.id stub = id := by
  have stays (condition : S → Bool) : id ∉ (store.removeWhere condition).2.ids := by
    rw [ids, toList_removeWhere]
    exact fun kept => new ((List.filter_sublist.map Stub.id).subset kept)
  cases operation with
  | add stub =>
      rcases store.add_cases stub with ⟨-, added, -⟩ | ⟨-, same, -⟩
      · rw [ids_add added] at known
        rcases List.mem_append.mp known with old | last
        · exact absurd old new
        · exact ⟨stub, rfl, (List.mem_singleton.mp last).symm⟩
      · rw [same] at known
        exact absurd known new
  | replace stub =>
      rcases store.replace_cases stub with ⟨-, replaced, -⟩ | ⟨-, same, -⟩
      · rw [ids_replace replaced] at known
        exact absurd known new
      · rw [same] at known
        exact absurd known new
  | remove other => exact absurd known (stays fun stub => Stub.id stub == other)
  | removeWhere condition => exact absurd known (stays condition)

/-- The moment at which an id that is still known was registered last. -/
structure RegisteredAt (history : List (StoreOperation S)) (id : Uuid) (moment : Nat) : Prop where
  added : ∃ stub, history[moment]? = some (.add stub) ∧ Stub.id stub = id
  unknown : id ∉ (run (history.take moment)).ids
  since : ∀ later, moment < later → later ≤ history.length → id ∈ (run (history.take later)).ids

namespace RegisteredAt

variable {history : List (StoreOperation S)} {id : Uuid} {moment : Nat}

private theorem lt_length (registered : RegisteredAt history id moment) :
    moment < history.length := by
  obtain ⟨stub, here, -⟩ := registered.added
  exact (List.getElem?_eq_some_iff.mp here).1

theorem known (registered : RegisteredAt history id moment) : id ∈ (run history).ids := by
  simpa using registered.since history.length registered.lt_length (Nat.le_refl _)

theorem concat {operation : StoreOperation S} (registered : RegisteredAt history id moment)
    (stays : id ∈ (run (history ++ [operation])).ids) :
    RegisteredAt (history ++ [operation]) id moment := by
  have inside := registered.lt_length
  refine ⟨?_, ?_, ?_⟩
  · rw [List.getElem?_append_left inside]
    exact registered.added
  · rw [List.take_append_of_le_length (Nat.le_of_lt inside)]
    exact registered.unknown
  · intro later lower upper
    rcases Nat.lt_or_ge history.length later with last | earlier
    · rwa [List.take_of_length_le (by simp; omega)]
    · rw [List.take_append_of_le_length earlier]
      exact registered.since later lower earlier

private theorem lt_of_registeredBefore {first second : Uuid} {earlier later : Nat}
    (firstAt : RegisteredAt history first earlier) (secondAt : RegisteredAt history second later)
    (before : RegisteredBefore history first second) : earlier < later := by
  obtain ⟨between, bound, unknown, known⟩ := before
  have below : earlier < between := by
    by_contra above
    exact firstAt.unknown (known earlier (by omega) (Nat.le_of_lt firstAt.lt_length))
  have above : between ≤ later := by
    by_contra below
    exact unknown (secondAt.since between (by omega) bound)
  omega

end RegisteredAt

private theorem mem_ids_run_iff {history : List (StoreOperation S)} {id : Uuid} :
    id ∈ (run history).ids ↔ ∃ moment, RegisteredAt history id moment := by
  refine ⟨?_, fun ⟨_, registered⟩ => registered.known⟩
  induction history using List.reverseRecOn with
  | nil => simp [ids, toList]
  | append_singleton history operation induction =>
      intro known
      by_cases earlier : id ∈ (run history).ids
      · obtain ⟨moment, registered⟩ := induction earlier
        exact ⟨moment, registered.concat known⟩
      · have performed := known
        rw [run_concat] at performed
        obtain ⟨stub, rfl, rfl⟩ := exists_add_of_new performed earlier
        refine ⟨history.length, ⟨stub, by simp, rfl⟩, by simpa using earlier, ?_⟩
        intro later lower upper
        rwa [List.take_of_length_le (by simp; omega)]

private theorem ids_run_inOrder (history : List (StoreOperation S)) :
    (run history).ids.Pairwise fun first second =>
      ∀ earlier later, RegisteredAt history first earlier →
        RegisteredAt history second later → earlier < later := by
  rw [ids, toList, List.map_map, List.pairwise_map]
  refine (numbered_run history).ascending.imp_of_mem ?_
  intro first second firstMember secondMember smaller earlier later firstAt secondAt
  exact firstAt.lt_of_registeredBefore secondAt
    ((seq_lt_iff_registeredBefore history firstMember secondMember).mp smaller)

private theorem toMap_run (history : List (StoreOperation S)) :
    (run history).toMap = InsertionMap.run history := by
  induction history using List.reverseRecOn with
  | nil => rfl
  | append_singleton history operation induction =>
      have same := congrArg Prod.snd ((numbered_run history).toMap_perform operation)
      rw [run_concat, InsertionMap.run, List.foldl_concat, ← InsertionMap.run, ← induction]
      exact same

/-- A store is a map from ids to stubs in the order in which the ids were registered last, by
ascending numbers.  An operation that is refused leaves it as it is, and every other one does to
its places and its stubs what it does to the map. -/
theorem refines_insertionMap (history : List (StoreOperation S)) :
    let store := run history
    store.Numbered ∧ store.toMap = InsertionMap.run history ∧
      store.toMap.entries = store.entries ∧
      (∀ operation, (store.answer operation, (store.perform operation).toMap) =
        store.toMap.step operation) ∧
      (∀ operation error, store.answer operation = .refused error →
        store.perform operation = store) ∧
      (∀ keep, store.reset keep =
        (store.toList.filter fun stub => !keep stub, store.perform (.reset keep))) ∧
      (∀ id stub, store.find? id = some stub ↔ stub ∈ store.toList ∧ Stub.id stub = id) ∧
      (∀ id, id ∈ store.ids ↔ ∃ moment, RegisteredAt history id moment) ∧
      store.ids.Pairwise fun first second =>
        ∀ earlier later, RegisteredAt history first earlier →
          RegisteredAt history second later → earlier < later := by
  intro store
  have numbered : store.Numbered := numbered_run history
  refine ⟨numbered, toMap_run history, numbered.entries_toMap, numbered.toMap_perform,
    fun _ _ => perform_of_refused, fun keep => ?_, fun _ _ => numbered.find?_iff,
    fun _ => mem_ids_run_iff, ids_run_inOrder history⟩
  exact Prod.ext (removeWhere_fst store _) rfl

/-- The id that was taken out and registered again comes last, although it was first before. -/
theorem refines_insertionMap_again :
    let first : HttpStub := { id := ⟨1⟩ }
    let second : HttpStub := { id := ⟨2⟩ }
    let history : List (StoreOperation HttpStub) :=
      [.add first, .add second, .remove first.id, .add first,
        .replace { second with name := some "renewed" }]
    let store := run history
    store.perform (.add first) = store ∧
      ∃ earlier later, RegisteredAt history second.id earlier ∧
        RegisteredAt history first.id later ∧ earlier < later := by
  intro first second history store
  obtain ⟨-, -, -, -, refused, -, -, registered, inOrder⟩ := refines_insertionMap history
  have ids : store.ids = [second.id, first.id] := by decide +kernel
  obtain ⟨earlier, secondAt⟩ := (registered second.id).mp (by simp [store, ids])
  obtain ⟨later, firstAt⟩ := (registered first.id).mp (by simp [store, ids])
  refine ⟨refused (.add first) (.duplicateStub first.id) rfl,
    earlier, later, secondAt, firstAt, ?_⟩
  rw [show (run history).ids = _ from ids] at inOrder
  exact (List.pairwise_pair.mp inOrder) earlier later secondAt firstAt

end StubStore

end ServiceStub
