import ServiceStub.Proofs.Stub.Store
import Mathlib.Data.List.Induction

/-!
Stores as they come about, one operation after the other.  The registration numbers say which of
two stubs has been registered for longer.
-/

namespace ServiceStub

inductive StoreOperation (S : Type) where
  | add (stub : S)
  | replace (stub : S)
  | remove (id : Uuid)
  | removeWhere (condition : S → Bool)

namespace StubStore

variable {S Input : Type} [Stub S Input]

/-- The store after an operation.  One that is refused changes nothing. -/
def perform (store : StubStore S) : StoreOperation S → StubStore S
  | .add stub => (store.add stub).toOption.getD store
  | .replace stub => (store.replace stub).toOption.getD store
  | .remove id => (store.remove id).2
  | .removeWhere condition => (store.removeWhere condition).2

def run (history : List (StoreOperation S)) : StubStore S := history.foldl perform {}

@[simp] theorem run_nil : run ([] : List (StoreOperation S)) = {} := rfl

theorem run_concat (history : List (StoreOperation S)) (operation : StoreOperation S) :
    run (history ++ [operation]) = (run history).perform operation := by
  simp [run]

theorem Numbered.perform {store : StubStore S} (numbered : store.Numbered)
    (operation : StoreOperation S) : (store.perform operation).Numbered := by
  cases operation with
  | add stub =>
      simp only [StubStore.perform]
      cases added : store.add stub with
      | error _ => exact numbered
      | ok after => exact numbered.add added
  | replace stub =>
      simp only [StubStore.perform]
      cases replaced : store.replace stub with
      | error _ => exact numbered
      | ok after => exact numbered.replace replaced
  | remove id => exact numbered.removeWhere fun stub => Stub.id stub == id
  | removeWhere condition => exact numbered.removeWhere condition

theorem numbered_run (history : List (StoreOperation S)) : (run history).Numbered := by
  induction history using List.reverseRecOn with
  | nil => exact .empty
  | append_singleton history operation induction =>
      rw [run_concat]
      exact induction.perform operation

/-- An operation keeps the number and the id of an entry, or it registers a new id under the next
number. -/
theorem entry_of_perform {store : StubStore S} {operation : StoreOperation S}
    {entry : StubEntry S} (member : entry ∈ (store.perform operation).entries) :
    (∃ previous ∈ store.entries,
        previous.seq = entry.seq ∧ Stub.id previous.stub = Stub.id entry.stub) ∨
      (Stub.id entry.stub ∉ store.ids ∧ entry.seq = store.nextSeq) := by
  cases operation with
  | add stub =>
      simp only [perform] at member
      cases added : store.add stub with
      | error _ =>
          rw [added] at member
          exact .inl ⟨entry, member, rfl, rfl⟩
      | ok after =>
          rw [added] at member
          obtain ⟨fresh, rfl⟩ := add_eq_ok_iff.mp added
          rcases List.mem_append.mp member with member | member
          · exact .inl ⟨entry, member, rfl, rfl⟩
          · rw [List.mem_singleton.mp member]
            exact .inr ⟨fresh, rfl⟩
  | replace stub =>
      simp only [perform] at member
      cases replaced : store.replace stub with
      | error _ =>
          rw [replaced] at member
          exact .inl ⟨entry, member, rfl, rfl⟩
      | ok after =>
          rw [replaced] at member
          obtain ⟨-, rfl⟩ := replace_eq_ok_iff.mp replaced
          obtain ⟨previous, previousMember, rfl⟩ := List.mem_map.mp member
          refine .inl ⟨previous, previousMember, ?_⟩
          by_cases same : Stub.id previous.stub = Stub.id stub
          · simp [same]
          · simp [same]
  | remove id => exact .inl ⟨entry, List.mem_of_mem_filter member, rfl, rfl⟩
  | removeWhere condition => exact .inl ⟨entry, List.mem_of_mem_filter member, rfl, rfl⟩

private theorem id_mem_ids {store : StubStore S} {entry : StubEntry S}
    (member : entry ∈ store.entries) :
    Stub.id entry.stub ∈ store.ids :=
  mem_ids.mpr ⟨entry.stub, mem_toList.mpr ⟨entry, member, rfl⟩, rfl⟩

/-- There was a moment from which on one id has always been registered while the other was not
registered at that moment. -/
def RegisteredBefore (history : List (StoreOperation S)) (first second : Uuid) : Prop :=
  ∃ moment ≤ history.length, second ∉ (run (history.take moment)).ids ∧
    ∀ later, moment ≤ later → later ≤ history.length → first ∈ (run (history.take later)).ids

theorem RegisteredBefore.registered {history : List (StoreOperation S)} {first second : Uuid}
    (before : RegisteredBefore history first second) : first ∈ (run history).ids := by
  obtain ⟨moment, bound, -, since⟩ := before
  simpa using since history.length bound (Nat.le_refl _)

private theorem registeredBefore_of_mem {history : List (StoreOperation S)} {first second : Uuid}
    (known : first ∈ (run history).ids) (unknown : second ∉ (run history).ids) :
    RegisteredBefore history first second := by
  refine ⟨history.length, Nat.le_refl _, by simpa using unknown, ?_⟩
  intro later lower upper
  rw [Nat.le_antisymm upper lower, List.take_length]
  exact known

private theorem registeredBefore_concat {history : List (StoreOperation S)}
    {operation : StoreOperation S} {first second : Uuid} :
    RegisteredBefore (history ++ [operation]) first second ↔
      first ∈ (run (history ++ [operation])).ids ∧
        (second ∉ (run (history ++ [operation])).ids ∨
          RegisteredBefore history first second) := by
  constructor
  · intro before
    refine ⟨before.registered, ?_⟩
    obtain ⟨moment, bound, unknown, since⟩ := before
    rcases Nat.lt_or_ge history.length moment with last | earlier
    · left
      rwa [List.take_of_length_le (by simp; omega)] at unknown
    · right
      refine ⟨moment, earlier, by rwa [List.take_append_of_le_length earlier] at unknown, ?_⟩
      intro later lower upper
      have known := since later lower (by simp; omega)
      rwa [List.take_append_of_le_length upper] at known
  · rintro ⟨known, unknown | ⟨moment, bound, unknown, since⟩⟩
    · exact registeredBefore_of_mem known unknown
    · refine ⟨moment, by simp; omega, by rwa [List.take_append_of_le_length bound], ?_⟩
      intro later lower upper
      rcases Nat.lt_or_ge history.length later with last | earlier
      · rwa [List.take_of_length_le (by simp; omega)]
      · rw [List.take_append_of_le_length earlier]
        exact since later lower earlier

/-- The smaller registration number belongs to the stub that came first. -/
theorem seq_lt_iff_registeredBefore (history : List (StoreOperation S))
    {first second : StubEntry S} (firstMember : first ∈ (run history).entries)
    (secondMember : second ∈ (run history).entries) :
    first.seq < second.seq ↔
      RegisteredBefore history (Stub.id first.stub) (Stub.id second.stub) := by
  induction history using List.reverseRecOn generalizing first second with
  | nil => simp at firstMember
  | append_singleton history operation induction =>
      have firstKnown := id_mem_ids firstMember
      have secondKnown := id_mem_ids secondMember
      rw [registeredBefore_concat]
      simp only [firstKnown, secondKnown, not_true, false_or, true_and]
      rw [run_concat] at firstMember secondMember
      have numbered := numbered_run history
      rcases entry_of_perform firstMember with ⟨former, formerMember, firstSeq, firstId⟩ | firstNew
      · rcases entry_of_perform secondMember with
          ⟨latter, latterMember, secondSeq, secondId⟩ | secondNew
        · rw [← firstSeq, ← firstId, ← secondSeq, ← secondId]
          exact induction formerMember latterMember
        · have smaller := numbered.bounded former formerMember
          have before := registeredBefore_of_mem (firstId ▸ id_mem_ids formerMember) secondNew.1
          have := secondNew.2
          exact iff_of_true (by omega) before
      · -- a new entry has the greatest number, and its id was not registered before
        have notBefore : ¬ RegisteredBefore history (Stub.id first.stub) (Stub.id second.stub) :=
          fun before => firstNew.1 before.registered
        refine iff_of_false ?_ notBefore
        have := firstNew.2
        rcases entry_of_perform secondMember with
          ⟨latter, latterMember, secondSeq, -⟩ | secondNew
        · have := numbered.bounded latter latterMember
          omega
        · have := secondNew.2
          omega

end StubStore

end ServiceStub
