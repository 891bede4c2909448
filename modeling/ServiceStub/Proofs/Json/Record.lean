import ServiceStub.Json.Record
import ServiceStub.Proofs.Json.Canonical

/-!
Records, lists and tables read back from the documents they were written as.  What is written
first is the shape, and each value only has to be read back by its own reader.
-/

namespace ServiceStub

variable {α β : Type}

namespace Json

def present (fields : List (String × Option Json)) : List (String × Json) :=
  fields.filterMap fun field => field.2.map fun value => (field.1, value)

theorem mem_present {fields : List (String × Option Json)} {name : String} {value : Json} :
    (name, value) ∈ present fields ↔ (name, some value) ∈ fields := by
  simp only [present, List.mem_filterMap, Option.map_eq_some_iff, Prod.mk.injEq]
  constructor
  · rintro ⟨⟨_, _⟩, member, _, rfl, rfl, rfl⟩
    exact member
  · intro member
    exact ⟨(name, some value), member, value, rfl, rfl, rfl⟩

theorem keys_present_sublist (fields : List (String × Option Json)) :
    (Assoc.keys (present fields)).Sublist (fields.map Prod.fst) := by
  induction fields with
  | nil => exact .slnil
  | cons field rest induction =>
      rcases field with ⟨name, _ | value⟩
      · exact induction.cons name
      · exact induction.cons_cons name

theorem find?_present {fields : List (String × Option Json)}
    (distinct : (fields.map Prod.fst).Nodup) {name : String} {value : Option Json}
    (member : (name, value) ∈ fields) : Assoc.find? name (present fields) = value := by
  cases value with
  | some value =>
      exact Assoc.find?_of_mem_of_nodup (distinct.sublist (keys_present_sublist fields))
        (mem_present.mpr member)
  | none =>
      rw [Assoc.find?_eq_none_iff]
      intro listed
      obtain ⟨⟨other, value⟩, present, rfl⟩ := List.mem_map.mp listed
      have same := List.inj_on_of_nodup_map distinct member (mem_present.mp present) rfl
      simp at same

theorem find?_present_eq_none {fields : List (String × Option Json)} {name : String}
    (undeclared : name ∉ fields.map Prod.fst) : Assoc.find? name (present fields) = none :=
  Assoc.find?_eq_none_iff.mpr fun listed =>
    undeclared ((keys_present_sublist fields).subset listed)

end Json

namespace Record

open Json (present)

variable {record : Record} {names : List String} {fields : List (String × Option Json)}
  {name : String} {read : Json → Option α} {write : α → Json}

theorem ofJson_record (names : List String) (distinct : (Assoc.keys (present fields)).Nodup) :
    ∃ record, ofJson names (Json.record fields) = some record ∧
      ∀ name ∈ names, record.get? name = Assoc.find? name (present fields) := by
  have sorted := Assoc.perm_ofList distinct
  have nodup : (((Assoc.ofList (present fields)).filter fun member =>
      names.contains member.1).map Prod.fst).Nodup :=
    (Assoc.ascending_ofList _).nodup.sublist (List.filter_sublist.map Prod.fst)
  refine ⟨_, if_pos nodup, fun name known => ?_⟩
  rw [get?, Assoc.lookup_eq_find?]
  exact (Assoc.find?_filter names.contains (by simpa using known) _).trans
    (Assoc.find?_eq_of_perm (Assoc.ascending_ofList _).nodup sorted name)

/-- Fields of different names are found again under their names. -/
theorem ofJson_record_of_distinct (names : List String) (distinct : (fields.map Prod.fst).Nodup) :
    ∃ record, ofJson names (Json.record fields) = some record ∧
      (∀ name value, (name, value) ∈ fields → name ∈ names → record.get? name = value) ∧
      ∀ name ∈ names, name ∉ fields.map Prod.fst → record.get? name = none := by
  obtain ⟨record, read, found⟩ :=
    ofJson_record names (distinct.sublist (Json.keys_present_sublist fields))
  refine ⟨record, read, fun name value member known => ?_, fun name known undeclared => ?_⟩
  · rw [found name known, Json.find?_present distinct member]
  · rw [found name known, Json.find?_present_eq_none undeclared]

theorem optional_of_get? {document : Json} (found : record.get? name = some document)
    (notNull : document ≠ .null) : record.optional name read = (read document).map some := by
  rw [optional, found]
  split
  · next missing => simp at missing
  · next null => exact absurd (Option.some.inj null) notNull
  · next given => rw [Option.some.inj given]

theorem optional_eq {value : Option α} (found : record.get? name = value.map write)
    (back : ∀ inner ∈ value, write inner ≠ .null ∧ read (write inner) = some inner) :
    record.optional name read = some value := by
  cases value with
  | none => simp [optional, found]
  | some inner =>
      obtain ⟨notNull, same⟩ := back inner rfl
      rw [optional_of_get? found notNull, same, Option.map_some]

theorem optional_text {value : Option String} (found : record.get? name = value.map .string) :
    record.optional name Json.asString? = some value :=
  optional_eq found fun _ _ => ⟨nofun, rfl⟩

theorem optional_flag {value : Option Bool} (found : record.get? name = value.map .bool) :
    record.optional name Json.asBool? = some value :=
  optional_eq found fun _ _ => ⟨nofun, rfl⟩

theorem withDefault_eq {value : Option α} {default : α}
    (found : record.get? name = value.map write)
    (back : ∀ inner ∈ value, read (write inner) = some inner) :
    record.withDefault name default read = some (value.getD default) := by
  cases value with
  | none => simp [withDefault, found]
  | some inner => simpa [withDefault, found] using back inner rfl

theorem required_eq {value : α} (found : record.get? name = some (write value))
    (back : read (write value) = some value) : record.required name read = some value := by
  rw [required, found, Option.bind_some, back]

theorem of_optional {value : α} (given : record.optional name read = some (some value)) :
    ∃ document, document ≠ .null ∧ read document = some value := by
  rw [optional] at given
  split at given
  · simp at given
  · simp at given
  · next document notNull _ =>
      obtain ⟨inner, back, same⟩ := Option.map_eq_some_iff.mp given
      exact ⟨document, notNull, by rw [back, Option.some.inj same]⟩

theorem of_withDefault {value default : α}
    (given : record.withDefault name default read = some value) :
    value = default ∨ ∃ document, read document = some value := by
  rw [withDefault] at given
  split at given
  · exact .inl (Option.some.inj given).symm
  · exact .inr ⟨_, given⟩

end Record

namespace Json

variable {read : Json → Option α} {write : α → Json} {items : List α}
  {table : List (String × α)}

theorem mapM_map {Written : Type} {step : Written → Option α} {make : α → Written}
    (back : ∀ item ∈ items, step (make item) = some item) :
    (items.map make).mapM step = some items := by
  induction items with
  | nil => rfl
  | cons item rest induction =>
      obtain ⟨first, others⟩ := List.forall_mem_cons.mp back
      simp [List.mapM_cons, first, induction others]

theorem exists_of_mapM {Written : Type} {step : Written → Option α} {written : List Written}
    (given : written.mapM step = some items) :
    ∀ item ∈ items, ∃ source ∈ written, step source = some item := by
  induction written generalizing items with
  | nil =>
      cases given
      simp
  | cons source rest induction =>
      simp only [List.mapM_cons, Option.bind_eq_bind, Option.bind_eq_some_iff] at given
      obtain ⟨first, made, others, madeOthers, same⟩ := given
      cases same
      intro item member
      rcases List.mem_cons.mp member with rfl | later
      · exact ⟨source, List.mem_cons_self, made⟩
      · obtain ⟨other, listed, madeOther⟩ := induction madeOthers item later
        exact ⟨other, List.mem_cons_of_mem source listed, madeOther⟩

theorem listOf?_map (back : ∀ item ∈ items, read (write item) = some item) :
    listOf? read (.array (items.map write)) = some items :=
  mapM_map back

theorem tableOf?_mapValues (ascending : Assoc.Ascending table)
    (back : ∀ entry ∈ table, read (write entry.2) = some entry.2) :
    tableOf? read (.object (Assoc.mapValues write table)) = some table := by
  have entries : (Assoc.mapValues write table).mapM (fun (member : String × Json) =>
      (read member.2).map fun value => (member.1, value)) = some table := by
    refine mapM_map fun entry member => ?_
    rw [back entry member, Option.map_some]
  rw [tableOf?, entries, Option.map_some, Assoc.ofList_of_ascending ascending]

theorem exists_of_listOf? {document : Json} (given : listOf? read document = some items) :
    ∀ item ∈ items, ∃ document, read document = some item := by
  cases document with
  | array documents =>
      intro item member
      obtain ⟨source, -, made⟩ := exists_of_mapM given item member
      exact ⟨source, made⟩
  | _ => simp [listOf?] at given

theorem ascending_of_tableOf? {document : Json} (given : tableOf? read document = some table) :
    Assoc.Ascending table ∧ ∀ entry ∈ table, ∃ document, read document = some entry.2 := by
  cases document with
  | object members =>
      obtain ⟨entries, each, rfl⟩ := Option.map_eq_some_iff.mp given
      refine ⟨Assoc.ascending_ofList entries, fun entry member => ?_⟩
      obtain ⟨source, -, made⟩ := exists_of_mapM each entry (Assoc.mem_of_mem_ofList member)
      obtain ⟨value, back, rfl⟩ := Option.map_eq_some_iff.mp made
      exact ⟨source.2, back⟩
  | _ => simp [tableOf?] at given

end Json

namespace Record

variable {record : Record} {name : String} {read : Json → Option α} {write : α → Json}

theorem list_eq {items : List α} (found : record.get? name = Json.listOption write items)
    (back : ∀ item ∈ items, read (write item) = some item) :
    record.withDefault name [] (Json.listOf? read) = some items := by
  rw [Json.listOption] at found
  cases items with
  | nil => simp [withDefault, found]
  | cons item rest => simpa [withDefault, found] using Json.listOf?_map back

theorem table_eq {table : List (String × α)}
    (found : record.get? name = Json.tableOption write table) (ascending : Assoc.Ascending table)
    (back : ∀ entry ∈ table, read (write entry.2) = some entry.2) :
    record.withDefault name [] (Json.tableOf? read) = some table := by
  rw [Json.tableOption] at found
  cases table with
  | nil => simp [withDefault, found]
  | cons entry rest =>
      simpa [withDefault, found] using Json.tableOf?_mapValues ascending back

theorem exists_of_list {items : List α}
    (given : record.withDefault name [] (Json.listOf? read) = some items) :
    ∀ item ∈ items, ∃ document, read document = some item := by
  rcases of_withDefault given with rfl | ⟨document, given⟩
  · simp
  · exact Json.exists_of_listOf? given

theorem ascending_of_table {table : List (String × α)}
    (given : record.withDefault name [] (Json.tableOf? read) = some table) :
    Assoc.Ascending table ∧ ∀ entry ∈ table, ∃ document, read document = some entry.2 := by
  rcases of_withDefault given with rfl | ⟨document, given⟩
  · exact ⟨Assoc.ascending_nil, by simp⟩
  · exact Json.ascending_of_tableOf? given

end Record

namespace Json

private theorem itemsDepth_le_iff {items : List Json} {bound : Nat} :
    itemsDepth items ≤ bound ↔ ∀ item ∈ items, item.depth ≤ bound := by
  induction items with
  | nil => simp [itemsDepth]
  | cons item rest induction =>
      rw [itemsDepth, Nat.max_le, induction, List.forall_mem_cons]

private theorem membersDepth_le_iff {members : List (String × Json)} {bound : Nat} :
    membersDepth members ≤ bound ↔ ∀ member ∈ members, member.2.depth ≤ bound := by
  induction members with
  | nil => simp [membersDepth]
  | cons member rest induction =>
      rw [membersDepth, Nat.max_le, induction, List.forall_mem_cons]

theorem depth_lt_array {items : List Json} {item : Json} (member : item ∈ items) :
    item.depth < (array items).depth :=
  Nat.lt_succ_of_le (itemsDepth_le_iff.mp (Nat.le_refl _) item member)

private theorem depth_record_le_iff {fields : List (String × Option Json)} {bound : Nat}
    (distinct : (Assoc.keys (present fields)).Nodup) :
    (Json.record fields).depth ≤ bound + 1 ↔
      ∀ member ∈ present fields, member.2.depth ≤ bound := by
  have sorted := Assoc.perm_ofList distinct
  rw [show Json.record fields = .object (Assoc.ofList (present fields)) from rfl, depth,
    Nat.add_le_add_iff_right, membersDepth_le_iff]
  exact forall_congr' fun member => by rw [sorted.mem_iff]

theorem depth_lt_record {fields : List (String × Option Json)} {name : String} {value : Json}
    (distinct : (Assoc.keys (present fields)).Nodup) (member : (name, value) ∈ present fields) :
    value.depth < (Json.record fields).depth :=
  Nat.lt_succ_of_le ((depth_record_le_iff distinct).mp (Nat.le_refl _) (name, value) member)

theorem depth_record_le_cons {fields : List (String × Option Json)} {name : String} {value : Json}
    (distinct : (Assoc.keys (present ((name, some value) :: fields))).Nodup) :
    (Json.record fields).depth ≤ (Json.record ((name, some value) :: fields)).depth := by
  have more := (depth_record_le_iff distinct).mp (Nat.le_refl _)
  refine (depth_record_le_iff (List.nodup_cons.mp distinct).2).mpr fun member listed => ?_
  exact more member (List.mem_cons_of_mem _ listed)

end Json

end ServiceStub
