import ServiceStub.Assoc
import Mathlib.Data.List.Perm.Basic
import Mathlib.Data.List.Nodup
import Mathlib.Data.List.Lookmap

/-! Sorting entries by key changes nothing but their order, as long as no key stands twice. -/

namespace ServiceStub.Assoc

variable {K V W : Type}

theorem KeyOrder.ne_of_lt [LT K] [KeyOrder K] {left right : K} (smaller : left < right) :
    left ≠ right := by
  rintro rfl
  exact KeyOrder.irrefl left smaller

theorem Ascending.nodup [LT K] [KeyOrder K] {entries : List (K × V)}
    (ascending : Ascending entries) : (keys entries).Nodup :=
  List.pairwise_map.mpr (ascending.imp KeyOrder.ne_of_lt)

theorem Ascending.ext [LT K] [KeyOrder K] {left right : List (K × V)}
    (ascending : Ascending left) (otherAscending : Ascending right)
    (same : ∀ entry, entry ∈ left ↔ entry ∈ right) : left = right := by
  have perm : left.Perm right :=
    (List.perm_ext_iff_of_nodup ascending.nodup.of_map otherAscending.nodup.of_map).mpr same
  refine List.Perm.eq_of_pairwise (fun first second _ _ before after => ?_) ascending
    otherAscending perm
  exact absurd (KeyOrder.trans before after) (KeyOrder.irrefl first.1)

variable [DecidableEq K]

theorem lookup_eq_find? [BEq K] [LawfulBEq K] (key : K) (entries : List (K × V)) :
    entries.lookup key = find? key entries := by
  induction entries with
  | nil => rfl
  | cons entry rest induction =>
      obtain ⟨name, value⟩ := entry
      by_cases same : key = name
      · simp [find?, same]
      · simp [List.lookup_cons, find?, same, beq_false_of_ne same, induction]

theorem find?_of_mem_of_nodup {entries : List (K × V)} (distinct : (keys entries).Nodup)
    {key : K} {value : V} (member : (key, value) ∈ entries) : find? key entries = some value := by
  induction entries with
  | nil => simp at member
  | cons entry rest induction =>
      simp only [keys, List.map_cons, List.nodup_cons] at distinct
      rcases List.mem_cons.mp member with rfl | later
      · simp [find?]
      · have different : key ≠ entry.1 := by
          intro same
          exact distinct.1 (List.mem_map.mpr ⟨(key, value), later, same⟩)
        simpa [find?, different] using induction distinct.2 later

theorem find?_eq_none_iff {key : K} {entries : List (K × V)} :
    find? key entries = none ↔ key ∉ keys entries := by
  rw [mem_keys_iff, not_exists, Option.eq_none_iff_forall_ne_some]

theorem find?_filter (keep : K → Bool) {key : K} (kept : keep key) (entries : List (K × V)) :
    find? key (entries.filter fun entry => keep entry.1) = find? key entries := by
  induction entries with
  | nil => rfl
  | cons entry rest induction =>
      by_cases same : key = entry.1
      · simp [find?, ← same, kept]
      · by_cases keeps : keep entry.1
        · simp [find?, same, keeps, induction]
        · simp [find?, same, keeps, induction]

/-- Where no key stands twice, only the entries matter and not their order. -/
theorem find?_eq_of_perm {left right : List (K × V)} (distinct : (keys left).Nodup)
    (same : left.Perm right) (key : K) : find? key left = find? key right := by
  have distinctRight : (keys right).Nodup := (same.map Prod.fst).nodup_iff.mp distinct
  cases found : find? key left with
  | none =>
      rw [find?_eq_none_iff, keys, (same.map Prod.fst).mem_iff] at found
      exact (find?_eq_none_iff.mpr found).symm
  | some value =>
      exact (find?_of_mem_of_nodup distinctRight (same.mem_iff.mp (mem_of_find? found))).symm

variable [LT K] [DecidableLT K]

theorem mem_of_mem_ofList {entry : K × V} {entries : List (K × V)}
    (member : entry ∈ ofList entries) : entry ∈ entries := by
  have folded (rest sorted : List (K × V))
      (member : entry ∈ rest.foldl (fun sorted entry => insert entry.1 entry.2 sorted) sorted) :
      entry ∈ rest ∨ entry ∈ sorted := by
    induction rest generalizing sorted with
    | nil => exact .inr member
    | cons first rest induction =>
        rcases induction _ member with later | inserted
        · exact .inl (List.mem_cons_of_mem first later)
        · rcases mem_insert inserted with rfl | known
          · exact .inl List.mem_cons_self
          · exact .inr known
  exact (folded entries [] member).resolve_right List.not_mem_nil

private theorem perm_insert {key : K} {value : V} {entries : List (K × V)}
    (fresh : key ∉ keys entries) :
    (insert key value entries).Perm ((key, value) :: entries) := by
  induction entries with
  | nil => rfl
  | cons entry rest induction =>
      simp only [keys, List.map_cons, List.mem_cons, not_or] at fresh
      simp only [insert, if_neg fresh.1]
      split
      · rfl
      · exact ((induction fresh.2).cons entry).trans (.swap ..)

theorem perm_ofList {entries : List (K × V)} (distinct : (keys entries).Nodup) :
    (ofList entries).Perm entries := by
  have folded (rest sorted : List (K × V)) (distinct : (keys (sorted ++ rest)).Nodup) :
      (rest.foldl (fun sorted entry => insert entry.1 entry.2 sorted) sorted).Perm
        (sorted ++ rest) := by
    induction rest generalizing sorted with
    | nil => rw [List.append_nil, List.foldl_nil]
    | cons entry rest induction =>
        have fresh : entry.1 ∉ keys sorted := by
          intro known
          rw [keys, List.map_append, List.nodup_append] at distinct
          exact distinct.2.2 entry.1 known entry.1 List.mem_cons_self rfl
        have moved : (insert entry.1 entry.2 sorted ++ rest).Perm (sorted ++ entry :: rest) :=
          ((perm_insert fresh).append_right rest).trans List.perm_middle.symm
        exact (induction _ ((moved.map Prod.fst).nodup_iff.mpr distinct)).trans moved
  exact folded entries [] distinct

variable [KeyOrder K]

private theorem insert_of_lt {key : K} {value : V} {entries : List (K × V)}
    (greatest : ∀ entry ∈ entries, entry.1 < key) :
    insert key value entries = entries ++ [(key, value)] := by
  induction entries with
  | nil => rfl
  | cons entry rest induction =>
      obtain ⟨smaller, smallerRest⟩ := List.forall_mem_cons.mp greatest
      have notSmaller : ¬ key < entry.1 := fun greater =>
        KeyOrder.irrefl key (KeyOrder.trans greater smaller)
      have different : key ≠ entry.1 := (KeyOrder.ne_of_lt smaller).symm
      simp [insert, notSmaller, different, induction smallerRest]

theorem insert_eq_map {entries : List (K × V)} (ascending : Ascending entries) {key : K}
    (known : key ∈ keys entries) (value : V) :
    insert key value entries =
      entries.map fun entry => if entry.1 = key then (key, value) else entry := by
  induction entries with
  | nil => cases known
  | cons first rest induction =>
      obtain ⟨smallest, ascendingRest⟩ := List.pairwise_cons.mp ascending
      rw [insert, List.map_cons]
      rcases List.mem_cons.mp known with rfl | later
      · have others : ∀ entry ∈ rest,
            (if entry.1 = first.1 then (first.1, value) else entry) = entry :=
          fun entry member => if_neg (KeyOrder.ne_of_lt (smallest entry member)).symm
        rw [if_neg (KeyOrder.irrefl first.1), if_pos rfl, if_pos rfl,
          List.map_congr_left others, List.map_id']
      · obtain ⟨entry, member, rfl⟩ := List.mem_map.mp later
        have greater : first.1 < entry.1 := smallest entry member
        have notSmaller : ¬entry.1 < first.1 := fun smaller =>
          KeyOrder.irrefl first.1 (KeyOrder.trans greater smaller)
        have different : first.1 ≠ entry.1 := KeyOrder.ne_of_lt greater
        rw [if_neg notSmaller, if_neg different.symm, if_neg different,
          induction ascendingRest later]

theorem ofList_of_ascending {entries : List (K × V)} (ascending : Ascending entries) :
    ofList entries = entries := by
  have folded (rest sorted : List (K × V)) (ascending : Ascending (sorted ++ rest)) :
      rest.foldl (fun sorted entry => insert entry.1 entry.2 sorted) sorted = sorted ++ rest := by
    induction rest generalizing sorted with
    | nil => rw [List.append_nil, List.foldl_nil]
    | cons entry rest induction =>
        have greatest : ∀ other ∈ sorted, other.1 < entry.1 := fun other member =>
          (List.pairwise_append.mp ascending).2.2 other member entry List.mem_cons_self
        rw [List.append_cons] at ascending ⊢
        rw [List.foldl_cons, insert_of_lt greatest]
        exact induction _ ascending
  exact folded entries [] ascending

end ServiceStub.Assoc
