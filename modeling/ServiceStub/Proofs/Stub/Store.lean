import ServiceStub.Stub.Store
import Mathlib.Data.List.Nodup

/-! What the operations on a store do to the stubs that can be looked up in it. -/

namespace ServiceStub.StubStore

variable {S Input : Type} [Stub S Input] {store : StubStore S}

def ids (store : StubStore S) : List Uuid := store.toList.map Stub.id

/-- The ids are pairwise different, and the registration numbers ascend below the next one. -/
structure Numbered (store : StubStore S) : Prop where
  distinct : store.ids.Nodup
  ascending : store.entries.Pairwise fun before after => before.seq < after.seq
  bounded : ∀ entry ∈ store.entries, entry.seq < store.nextSeq

omit [Stub S Input] in
theorem mem_toList {stub : S} : stub ∈ store.toList ↔ ∃ entry ∈ store.entries, entry.stub = stub :=
  List.mem_map

theorem mem_ids {id : Uuid} : id ∈ store.ids ↔ ∃ stub ∈ store.toList, Stub.id stub = id :=
  List.mem_map

theorem find?_eq_none_iff {id : Uuid} : store.find? id = none ↔ id ∉ store.ids := by
  simp [find?, ids]

theorem find?_isSome_iff {id : Uuid} : (store.find? id).isSome ↔ id ∈ store.ids := by
  simp [find?, ids]

theorem find?_sound {id : Uuid} {stub : S} (found : store.find? id = some stub) :
    stub ∈ store.toList ∧ Stub.id stub = id :=
  ⟨List.mem_of_find?_eq_some found, by simpa using List.find?_some found⟩

namespace Numbered

theorem eq_of_id (numbered : store.Numbered) {first second : S} (firstMember : first ∈ store.toList)
    (secondMember : second ∈ store.toList) (sameId : Stub.id first = Stub.id second) :
    first = second :=
  List.inj_on_of_nodup_map numbered.distinct firstMember secondMember sameId

theorem find?_iff (numbered : store.Numbered) {id : Uuid} {stub : S} :
    store.find? id = some stub ↔ stub ∈ store.toList ∧ Stub.id stub = id := by
  constructor
  · exact find?_sound
  · rintro ⟨member, rfl⟩
    cases found : store.find? (Stub.id stub) with
    | none => exact absurd (mem_ids.mpr ⟨stub, member, rfl⟩) (find?_eq_none_iff.mp found)
    | some other =>
        obtain ⟨otherMember, sameId⟩ := find?_sound found
        rw [numbered.eq_of_id otherMember member sameId]

theorem eq_of_seq (numbered : store.Numbered) {first second : StubEntry S}
    (firstMember : first ∈ store.entries) (secondMember : second ∈ store.entries)
    (sameSeq : first.seq = second.seq) : first = second := by
  have distinct : (store.entries.map StubEntry.seq).Nodup :=
    List.pairwise_map.mpr (numbered.ascending.imp Nat.ne_of_lt)
  exact List.inj_on_of_nodup_map distinct firstMember secondMember sameSeq

theorem empty : ({} : StubStore S).Numbered where
  distinct := List.nodup_nil
  ascending := .nil
  bounded := by simp

end Numbered

theorem add_eq_ok_iff {stub : S} {after : StubStore S} :
    store.add stub = .ok after ↔
      Stub.id stub ∉ store.ids ∧
        after = ⟨store.entries ++ [⟨store.nextSeq, stub⟩], store.nextSeq + 1⟩ := by
  by_cases known : Stub.id stub ∈ store.ids
  · simp [add, find?_isSome_iff, known]
  · simp only [add, find?_isSome_iff, known, if_false, Except.ok.injEq, not_false_eq_true,
      true_and]
    exact eq_comm

theorem ids_add {stub : S} {after : StubStore S} (added : store.add stub = .ok after) :
    after.ids = store.ids ++ [Stub.id stub] := by
  obtain ⟨-, rfl⟩ := add_eq_ok_iff.mp added
  simp [ids, toList]

theorem find?_add {stub : S} {after : StubStore S} (added : store.add stub = .ok after)
    (id : Uuid) :
    after.find? id = if id = Stub.id stub then some stub else store.find? id := by
  obtain ⟨fresh, rfl⟩ := add_eq_ok_iff.mp added
  by_cases same : id = Stub.id stub
  · have absent := find?_eq_none_iff.mpr fresh
    simp only [find?, toList] at absent
    simp [find?, toList, same, absent]
  · have other : (Stub.id stub == id) = false := by simpa using Ne.symm same
    simp [find?, toList, same, other]

theorem Numbered.add (numbered : store.Numbered) {stub : S} {after : StubStore S}
    (added : store.add stub = .ok after) : after.Numbered := by
  obtain ⟨fresh, rfl⟩ := add_eq_ok_iff.mp added
  refine ⟨?_, ?_, ?_⟩
  · rw [ids_add added]
    exact List.nodup_append.mpr ⟨numbered.distinct, List.nodup_singleton _, by
      intro id member other otherMember
      rw [List.mem_singleton.mp otherMember]
      exact fun same => fresh (same ▸ member)⟩
  · refine List.pairwise_append.mpr ⟨numbered.ascending, List.pairwise_singleton _ _, ?_⟩
    intro entry member last lastMember
    rw [List.mem_singleton.mp lastMember]
    exact numbered.bounded entry member
  · intro entry member
    rcases List.mem_append.mp member with member | member
    · exact Nat.lt_succ_of_lt (numbered.bounded entry member)
    · rw [List.mem_singleton.mp member]
      exact Nat.lt_succ_self _

theorem replace_eq_ok_iff {stub : S} {after : StubStore S} :
    store.replace stub = .ok after ↔
      Stub.id stub ∈ store.ids ∧
        after = { store with
          entries := store.entries.map fun entry =>
            if Stub.id entry.stub == Stub.id stub then { entry with stub } else entry } := by
  by_cases known : Stub.id stub ∈ store.ids
  · simp only [replace, find?_isSome_iff, known, if_true, Except.ok.injEq, true_and]
    exact eq_comm
  · simp [replace, find?_isSome_iff, known]

theorem ids_replace {stub : S} {after : StubStore S} (replaced : store.replace stub = .ok after) :
    after.ids = store.ids := by
  obtain ⟨-, rfl⟩ := replace_eq_ok_iff.mp replaced
  simp only [ids, toList, List.map_map]
  apply List.map_congr_left
  intro entry _
  by_cases same : Stub.id entry.stub = Stub.id stub
  · simp [same]
  · simp [same]

private theorem mem_toList_replace {stub : S} {after : StubStore S}
    (replaced : store.replace stub = .ok after) {other : S} :
    other ∈ after.toList ↔ other = stub ∨ other ∈ store.toList ∧ Stub.id other ≠ Stub.id stub := by
  obtain ⟨known, rfl⟩ := replace_eq_ok_iff.mp replaced
  obtain ⟨previous, previousMember, sameId⟩ := mem_ids.mp known
  obtain ⟨entry, entryMember, rfl⟩ := mem_toList.mp previousMember
  simp only [mem_toList, List.mem_map, exists_exists_and_eq_and]
  constructor
  · rintro ⟨candidate, member, rfl⟩
    by_cases same : Stub.id candidate.stub = Stub.id stub
    · exact .inl (by simp [same])
    · exact .inr (by simpa [same] using ⟨candidate, member, rfl⟩)
  · rintro (rfl | ⟨⟨candidate, member, rfl⟩, different⟩)
    · exact ⟨entry, entryMember, by simp [sameId]⟩
    · exact ⟨candidate, member, by simp [different]⟩

theorem Numbered.replace (numbered : store.Numbered) {stub : S} {after : StubStore S}
    (replaced : store.replace stub = .ok after) : after.Numbered := by
  have distinct : after.ids.Nodup := ids_replace replaced ▸ numbered.distinct
  obtain ⟨-, rfl⟩ := replace_eq_ok_iff.mp replaced
  have seqKept (entry : StubEntry S) :
      (if Stub.id entry.stub == Stub.id stub then { entry with stub } else entry).seq =
        entry.seq := by
    split <;> rfl
  refine ⟨distinct, ?_, ?_⟩
  · simpa only [List.pairwise_map, seqKept] using numbered.ascending
  · simpa only [List.forall_mem_map, seqKept] using numbered.bounded

theorem Numbered.find?_replace (numbered : store.Numbered) {stub : S} {after : StubStore S}
    (replaced : store.replace stub = .ok after) (id : Uuid) :
    after.find? id = if id = Stub.id stub then some stub else store.find? id := by
  apply Option.ext
  intro other
  rw [(numbered.replace replaced).find?_iff, mem_toList_replace replaced]
  by_cases same : id = Stub.id stub
  · subst same
    simp only [if_pos, Option.some.injEq]
    constructor
    · rintro ⟨rfl | ⟨-, different⟩, sameId⟩
      · rfl
      · exact absurd sameId different
    · rintro rfl
      exact ⟨.inl rfl, rfl⟩
  · rw [if_neg same, numbered.find?_iff]
    constructor
    · rintro ⟨rfl | ⟨member, -⟩, sameId⟩
      · exact absurd sameId.symm same
      · exact ⟨member, sameId⟩
    · rintro ⟨member, rfl⟩
      exact ⟨.inr ⟨member, same⟩, rfl⟩

omit [Stub S Input] in
theorem removeWhere_fst (store : StubStore S) (condition : S → Bool) :
    (store.removeWhere condition).1 = store.toList.filter condition := by
  simp [removeWhere, toList, List.filter_map, Function.comp_def]

omit [Stub S Input] in
theorem toList_removeWhere (store : StubStore S) (condition : S → Bool) :
    (store.removeWhere condition).2.toList = store.toList.filter fun stub => !condition stub := by
  simp [removeWhere, toList, List.filter_map, Function.comp_def]

theorem Numbered.removeWhere (numbered : store.Numbered) (condition : S → Bool) :
    (store.removeWhere condition).2.Numbered where
  distinct := by
    rw [ids, toList_removeWhere]
    exact numbered.distinct.sublist (List.Sublist.map Stub.id List.filter_sublist)
  ascending := numbered.ascending.filter _
  bounded entry member := numbered.bounded entry (List.mem_of_mem_filter member)

theorem Numbered.find?_removeWhere (numbered : store.Numbered) (condition : S → Bool) (id : Uuid) :
    (store.removeWhere condition).2.find? id =
      (store.find? id).filter fun stub => !condition stub := by
  apply Option.ext
  intro stub
  rw [(numbered.removeWhere condition).find?_iff, toList_removeWhere, List.mem_filter,
    Option.filter_eq_some_iff, numbered.find?_iff]
  exact ⟨fun ⟨⟨member, kept⟩, sameId⟩ => ⟨⟨member, sameId⟩, kept⟩,
    fun ⟨⟨member, sameId⟩, kept⟩ => ⟨⟨member, kept⟩, sameId⟩⟩

theorem Numbered.removeWhere_id_fst (numbered : store.Numbered) {id : Uuid} {stub : S}
    (found : store.find? id = some stub) :
    (store.removeWhere fun stub => Stub.id stub == id).1 = [stub] := by
  rw [removeWhere_fst]
  have distinct : store.toList.Nodup := List.Nodup.of_map Stub.id numbered.distinct
  refine List.perm_singleton.mp
    ((List.perm_ext_iff_of_nodup (distinct.filter _) (List.nodup_singleton stub)).mpr ?_)
  intro other
  rw [List.mem_filter, beq_iff_eq, ← numbered.find?_iff, found, Option.some.injEq,
    List.mem_singleton]
  exact eq_comm

theorem remove_snd (id : Uuid) :
    (store.remove id).2 = (store.removeWhere fun stub => Stub.id stub == id).2 := rfl

theorem remove_fst (id : Uuid) : (store.remove id).1 = store.find? id := by
  simp only [remove, removeWhere_fst, find?, List.head?_filter]

theorem remove_of_absent {id : Uuid} (absent : store.find? id = none) :
    (store.remove id).2 = store := by
  have others :
      store.entries.filter (fun entry => !(Stub.id entry.stub == id)) = store.entries := by
    refine List.filter_eq_self.mpr fun entry member => ?_
    have listed : entry.stub ∈ store.toList := mem_toList.mpr ⟨entry, member, rfl⟩
    simpa using List.find?_eq_none.mp absent entry.stub listed
  rw [remove_snd, removeWhere, others]

end ServiceStub.StubStore
