import ServiceStub.Json.Parser
import ServiceStub.Proofs.Assoc

/-! Documents in canonical form stay as they are when they are sorted once more. -/

namespace ServiceStub.Json

@[elab_as_elim] theorem nestedInduction {motive : Json → Prop} (null : motive .null)
    (bool : ∀ value, motive (.bool value)) (number : ∀ value, motive (.number value))
    (string : ∀ text, motive (.string text))
    (array : ∀ items, (∀ item ∈ items, motive item) → motive (.array items))
    (object : ∀ members, (∀ member ∈ members, motive member.2) → motive (.object members))
    (document : Json) : motive document := by
  refine @Json.rec motive (fun items => ∀ item ∈ items, motive item)
    (fun members => ∀ member ∈ members, motive member.2) (fun member => motive member.2)
    null bool number string array object ?_ ?_ ?_ ?_ ?_ document
  · exact fun _ absent => absurd absent List.not_mem_nil
  · exact fun _ _ first others => List.forall_mem_cons.mpr ⟨first, others⟩
  · exact fun _ absent => absurd absent List.not_mem_nil
  · exact fun _ _ first others => List.forall_mem_cons.mpr ⟨first, others⟩
  · exact fun _ _ inner => inner

def IsCanonical (document : Json) : Prop := document.canonical = document

private theorem canonicalItems_eq (items : List Json) :
    canonicalItems items = items.map canonical := by
  induction items with
  | nil => rfl
  | cons item rest induction => rw [canonicalItems, induction, List.map_cons]

private theorem canonicalMembers_eq (members : List (String × Json)) :
    canonicalMembers members = Assoc.mapValues canonical members := by
  induction members with
  | nil => rfl
  | cons member rest induction =>
      rw [canonicalMembers, induction, Assoc.mapValues, Assoc.mapValues, List.map_cons]

theorem canonical_array (items : List Json) :
    (array items).canonical = .array (items.map canonical) := by
  rw [canonical, canonicalItems_eq]

theorem canonical_object (members : List (String × Json)) :
    (object members).canonical =
      .object (Assoc.ofList (Assoc.mapValues canonical members)) := by
  rw [canonical, canonicalMembers_eq]

theorem exists_of_mem_canonical {members : List (String × Json)} {member : String × Json}
    (listed : member ∈ Assoc.ofList (Assoc.mapValues canonical members)) :
    ∃ written ∈ members, (written.1, written.2.canonical) = member :=
  List.mem_map.mp (Assoc.mem_of_mem_ofList listed)

theorem isCanonical_array {items : List Json} (each : ∀ item ∈ items, item.IsCanonical) :
    (array items).IsCanonical := by
  rw [IsCanonical, canonical_array, List.map_congr_left each, List.map_id']

theorem isCanonical_object {members : List (String × Json)} (ascending : Assoc.Ascending members)
    (each : ∀ member ∈ members, member.2.IsCanonical) : (object members).IsCanonical := by
  have same : ∀ member ∈ members, (member.1, member.2.canonical) = member := fun member listed =>
    congrArg (Prod.mk member.1) (each member listed)
  rw [IsCanonical, canonical_object, Assoc.mapValues, List.map_congr_left same, List.map_id',
    Assoc.ofList_of_ascending ascending]

theorem isCanonical_canonical (document : Json) : document.canonical.IsCanonical := by
  induction document using nestedInduction with
  | null => rfl
  | bool value => rfl
  | number value => rfl
  | string text => rfl
  | array items induction =>
      rw [canonical_array]
      exact isCanonical_array (List.forall_mem_map.mpr induction)
  | object members induction =>
      rw [canonical_object]
      refine isCanonical_object (Assoc.ascending_ofList _) fun member listed => ?_
      obtain ⟨written, writtenListed, rfl⟩ := exists_of_mem_canonical listed
      exact induction written writtenListed

theorem isCanonical_parse {text : String} {document : Json} (parsed : parse text = some document) :
    document.IsCanonical := by
  obtain ⟨written, -, rfl⟩ := Option.map_eq_some_iff.mp parsed
  exact isCanonical_canonical written

theorem canonical_eq_null_iff {document : Json} : document.canonical = null ↔ document = null := by
  cases document <;> simp [canonical]

theorem IsCanonical.items {items : List Json} (canonical : (array items).IsCanonical) :
    ∀ item ∈ items, item.IsCanonical := by
  rw [IsCanonical, canonical_array] at canonical
  rw [← Json.array.inj canonical]
  exact List.forall_mem_map.mpr fun item _ => isCanonical_canonical item

theorem IsCanonical.ascending {members : List (String × Json)}
    (canonical : (object members).IsCanonical) : Assoc.Ascending members := by
  rw [IsCanonical, canonical_object] at canonical
  rw [← Json.object.inj canonical]
  exact Assoc.ascending_ofList _

theorem IsCanonical.values {members : List (String × Json)}
    (canonical : (object members).IsCanonical) : ∀ member ∈ members, member.2.IsCanonical := by
  rw [IsCanonical, canonical_object] at canonical
  rw [← Json.object.inj canonical]
  intro member listed
  obtain ⟨written, -, rfl⟩ := exists_of_mem_canonical listed
  exact isCanonical_canonical written.2

end ServiceStub.Json
