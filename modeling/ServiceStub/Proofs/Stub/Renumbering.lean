import ServiceStub.Proofs.Stub.Resolution
import ServiceStub.Stub.NearMiss
import Mathlib.Data.List.Pairwise

/-!
Stores that hold the same stubs in the same order.  Their registration numbers may differ, and
nothing that is asked of them can tell.
-/

namespace ServiceStub

/-- Two attempts at an operation: both are refused for one reason, or both results are related. -/
inductive BothOrNeither {Error Result : Type} (related : Result → Result → Prop) :
    Except Error Result → Except Error Result → Prop where
  | refused (error : Error) : BothOrNeither related (.error error) (.error error)
  | done {left right : Result} (results : related left right) :
      BothOrNeither related (.ok left) (.ok right)

namespace BothOrNeither

variable {Error First Second : Type} {before : First → First → Prop}
  {after : Second → Second → Prop}

theorem bind {left right : Except Error First} (attempts : BothOrNeither before left right)
    {nextLeft nextRight : First → Except Error Second}
    (next : ∀ {first second}, before first second →
      BothOrNeither after (nextLeft first) (nextRight second)) :
    BothOrNeither after (left >>= nextLeft) (right >>= nextRight) := by
  cases attempts with
  | refused error => exact .refused error
  | done results => exact next results

theorem getD {left right : Except Error First} (attempts : BothOrNeither before left right)
    {stayLeft stayRight : First} (stay : before stayLeft stayRight) :
    before (left.toOption.getD stayLeft) (right.toOption.getD stayRight) := by
  cases attempts with
  | refused _ => exact stay
  | done results => exact results

end BothOrNeither

namespace StubStore

variable {S Input : Type} [Stub S Input] {left right : StubStore S}

/-- Both stores have come about by registrations, and hold the same stubs in the same order. -/
structure Renumbered (left right : StubStore S) : Prop where
  toList_eq : left.toList = right.toList
  left_numbered : left.Numbered
  right_numbered : right.Numbered

private theorem toList_replace {store after : StubStore S} {stub : S}
    (replaced : store.replace stub = .ok after) :
    after.toList =
      store.toList.map fun other => if Stub.id other == Stub.id stub then stub else other := by
  obtain ⟨-, rfl⟩ := replace_eq_ok_iff.mp replaced
  simp only [toList, List.map_map]
  apply List.map_congr_left
  intro entry _
  by_cases same : Stub.id entry.stub = Stub.id stub <;> simp [same]

def candidateOf (R : Type) [Scalar R] (now : Calendar.Instant) (input : Input)
    (entry : StubEntry S) : Candidate S R :=
  { entry, report := Stub.evaluate now entry.stub input }

private theorem candidates_eq (R : Type) [Scalar R] (now : Calendar.Instant) (store : StubStore S)
    (scenarios : Scenarios) (input : Input) :
    store.candidates now scenarios input =
      (store.entries.filter fun entry => scenarios.permits (Stub.scenario entry.stub) &&
        (Stub.evaluate now entry.stub input : MatchReport R).isExact).map
          (candidateOf R now input) := by
  rw [candidates, List.filterMap_filter]
  induction store.entries with
  | nil => rfl
  | cons entry rest induction =>
      by_cases permitted : scenarios.permits (Stub.scenario entry.stub)
      · by_cases exact : (Stub.evaluate now entry.stub input : MatchReport R).isExact
        · simp [permitted, exact, induction, candidateOf]
        · simp [permitted, exact, induction]
      · simp [permitted, induction]

namespace Renumbered

theorem find?_eq (same : Renumbered left right) (id : Uuid) : left.find? id = right.find? id := by
  rw [find?, find?, same.toList_eq]

private theorem ids_eq (same : Renumbered left right) : left.ids = right.ids := by
  rw [ids, ids, same.toList_eq]

theorem add (same : Renumbered left right) (stub : S) :
    BothOrNeither Renumbered (left.add stub) (right.add stub) := by
  by_cases known : Stub.id stub ∈ left.ids
  · have knownRight := same.ids_eq ▸ known
    simp only [StubStore.add, find?_isSome_iff, known, knownRight, if_true]
    exact .refused _
  · have leftAdded := add_eq_ok_iff.mpr ⟨known, rfl⟩
    have rightAdded := add_eq_ok_iff.mpr ⟨same.ids_eq ▸ known, rfl⟩
    rw [leftAdded, rightAdded]
    refine .done ⟨?_, same.left_numbered.add leftAdded, same.right_numbered.add rightAdded⟩
    simpa [toList] using same.toList_eq

theorem replace (same : Renumbered left right) (stub : S) :
    BothOrNeither Renumbered (left.replace stub) (right.replace stub) := by
  by_cases known : Stub.id stub ∈ left.ids
  · have leftReplaced := replace_eq_ok_iff.mpr ⟨known, rfl⟩
    have rightReplaced := replace_eq_ok_iff.mpr ⟨same.ids_eq ▸ known, rfl⟩
    rw [leftReplaced, rightReplaced]
    refine .done ⟨?_, same.left_numbered.replace leftReplaced,
      same.right_numbered.replace rightReplaced⟩
    rw [toList_replace leftReplaced, toList_replace rightReplaced, same.toList_eq]
  · have unknownRight := same.ids_eq ▸ known
    simp only [StubStore.replace, find?_isSome_iff, known, unknownRight, if_false]
    exact .refused _

theorem removeWhere (same : Renumbered left right) (condition : S → Bool) :
    (left.removeWhere condition).1 = (right.removeWhere condition).1 ∧
      Renumbered (left.removeWhere condition).2 (right.removeWhere condition).2 := by
  refine ⟨?_, ?_, same.left_numbered.removeWhere condition,
    same.right_numbered.removeWhere condition⟩
  · rw [removeWhere_fst, removeWhere_fst, same.toList_eq]
  · rw [toList_removeWhere, toList_removeWhere, same.toList_eq]

/-- The entries of both stores side by side, which hold the same stubs in ascending order. -/
theorem exists_pairs (same : Renumbered left right) :
    ∃ pairs : List (StubEntry S × StubEntry S),
      left.entries = pairs.map Prod.fst ∧ right.entries = pairs.map Prod.snd ∧
        (∀ pair ∈ pairs, pair.2.stub = pair.1.stub) ∧
        pairs.Pairwise fun before after =>
          before.1.seq < after.1.seq ∧ before.2.seq < after.2.seq := by
  have sizes : left.entries.length = right.entries.length := by
    simpa [toList] using congrArg List.length same.toList_eq
  obtain ⟨pairs, firsts, seconds⟩ : ∃ pairs : List (StubEntry S × StubEntry S),
      left.entries = pairs.map Prod.fst ∧ right.entries = pairs.map Prod.snd :=
    ⟨left.entries.zip right.entries, (List.map_fst_zip (Nat.le_of_eq sizes)).symm,
      (List.map_snd_zip (Nat.le_of_eq sizes.symm)).symm⟩
  refine ⟨pairs, firsts, seconds, ?_, ?_⟩
  · have stubs := same.toList_eq
    rw [toList, toList, firsts, seconds, List.map_map, List.map_map, List.map_inj_left] at stubs
    intro pair member
    exact (stubs pair member).symm
  · have leftAscending := same.left_numbered.ascending
    have rightAscending := same.right_numbered.ascending
    rw [firsts, List.pairwise_map] at leftAscending
    rw [seconds, List.pairwise_map] at rightAscending
    exact leftAscending.and rightAscending

private theorem precedes_eq {pairs : List (StubEntry S × StubEntry S)}
    (stubs : ∀ pair ∈ pairs, pair.2.stub = pair.1.stub)
    (ascending : pairs.Pairwise fun before after =>
      before.1.seq < after.1.seq ∧ before.2.seq < after.2.seq) :
    ∀ first ∈ pairs, ∀ second ∈ pairs,
      first.1.precedes second.1 = first.2.precedes second.2 := by
  let Agree (first second : StubEntry S × StubEntry S) : Prop :=
    (first.1.seq ≤ second.1.seq ↔ first.2.seq ≤ second.2.seq) ∧
      (second.1.seq ≤ first.1.seq ↔ second.2.seq ≤ first.2.seq)
  have symmetric : Std.Symm Agree := ⟨fun _ _ => And.symm⟩
  have agree : pairs.Pairwise Agree := ascending.imp fun smaller => by simp only [Agree]; omega
  intro first firstMember second secondMember
  have order := agree.forall_of_forall (fun _ _ => by simp [Agree]) firstMember secondMember
  simp only [StubEntry.precedes, stubs first firstMember, stubs second secondMember, order.1]

private theorem exists_sortedPairs (same : Renumbered left right) (R : Type) [Scalar R]
    (now : Calendar.Instant) (scenarios : Scenarios) (input : Input) :
    ∃ pairs : List (StubEntry S × StubEntry S), (∀ pair ∈ pairs, pair.2.stub = pair.1.stub) ∧
      sortedCandidates now left scenarios input =
        pairs.map (candidateOf R now input ∘ Prod.fst) ∧
      sortedCandidates now right scenarios input =
        pairs.map (candidateOf R now input ∘ Prod.snd) := by
  obtain ⟨pairs, firsts, seconds, stubs, ascending⟩ := same.exists_pairs
  let accepted := pairs.filter fun pair => scenarios.permits (Stub.scenario pair.1.stub) &&
    (Stub.evaluate now pair.1.stub input : MatchReport R).isExact
  have within : accepted ⊆ pairs := List.filter_subset_self ..
  have agree := precedes_eq stubs ascending
  -- The pairs are sorted by their left entries, and so by their right ones too.
  refine ⟨accepted.mergeSort fun first second => first.1.precedes second.1, ?_, ?_, ?_⟩
  · exact fun pair member => stubs pair (within (List.mem_mergeSort.mp member))
  · rw [sortedCandidates, candidates_eq, firsts, List.filter_map, List.map_map]
    refine (List.map_mergeSort fun first _ second _ => ?_).symm
    rfl
  · have rightAccepted : accepted = pairs.filter
        ((fun entry => scenarios.permits (Stub.scenario entry.stub) &&
          (Stub.evaluate now entry.stub input : MatchReport R).isExact) ∘ Prod.snd) :=
      List.filter_congr fun pair member => by simp [stubs pair member]
    rw [sortedCandidates, candidates_eq, seconds, List.filter_map, List.map_map, ← rightAccepted]
    refine (List.map_mergeSort fun first firstMember second secondMember => ?_).symm
    exact agree first (within firstMember) second (within secondMember)

theorem resolve_eq (same : Renumbered left right) {R : Type} [Scalar R] (now : Calendar.Instant)
    (scenarios : Scenarios) (input : Input) :
    (left.resolve now scenarios input : Option (Resolution S R) × Scenarios) =
      right.resolve now scenarios input := by
  obtain ⟨pairs, stubs, leftSorted, rightSorted⟩ :=
    same.exists_sortedPairs R now scenarios input
  rw [StubStore.resolve_eq, StubStore.resolve_eq, leftSorted, rightSorted]
  cases pairs with
  | nil => rfl
  | cons pair rest =>
      simp only [List.map_cons, Function.comp_apply, candidateOf, stubs pair List.mem_cons_self]

theorem nearMisses_eq (same : Renumbered left right) {R : Type} [Scalar R]
    (now : Calendar.Instant) (limit : Nat) (scenarios : Scenarios) (input : Input) :
    (left.nearMisses now limit scenarios input : List (NearMiss S R)) =
      right.nearMisses now limit scenarios input := by
  rw [nearMisses, nearMisses, same.toList_eq]

end Renumbered

end StubStore

end ServiceStub
