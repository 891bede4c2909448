/-! Lists of entries in ascending order of their keys, with one entry for each key. -/

namespace ServiceStub.Assoc

variable {K V W : Type}

def keys (entries : List (K × V)) : List K := entries.map Prod.fst

def values (entries : List (K × V)) : List V := entries.map Prod.snd

def mapValues (change : V → W) (entries : List (K × V)) : List (K × W) :=
  entries.map fun entry => (entry.1, change entry.2)

def Ascending [LT K] (entries : List (K × V)) : Prop :=
  entries.Pairwise fun before after => before.1 < after.1

theorem ascending_nil [LT K] : Ascending ([] : List (K × V)) := List.Pairwise.nil

class KeyOrder (K : Type) [LT K] : Prop where
  irrefl (key : K) : ¬key < key
  trans {first second third : K} : first < second → second < third → first < third
  eq_of_not_lt {left right : K} : ¬left < right → ¬right < left → left = right

instance : KeyOrder String where
  irrefl := String.lt_irrefl
  trans := String.lt_trans
  eq_of_not_lt notSmaller notGreater :=
    String.le_antisymm (String.not_lt.mp notGreater) (String.not_lt.mp notSmaller)

variable [DecidableEq K]

def find? (key : K) : List (K × V) → Option V
  | [] => none
  | entry :: rest => if key = entry.1 then some entry.2 else find? key rest

def erase (key : K) (entries : List (K × V)) : List (K × V) :=
  entries.filter fun entry => key ≠ entry.1

theorem mem_of_find? {key : K} {value : V} {entries : List (K × V)}
    (found : find? key entries = some value) : (key, value) ∈ entries := by
  induction entries with
  | nil => simp [find?] at found
  | cons entry rest induction =>
      by_cases same : key = entry.1
      · simp only [find?, if_pos same, Option.some.injEq] at found
        subst same found
        exact List.mem_cons_self
      · simp only [find?, if_neg same] at found
        exact List.mem_cons_of_mem entry (induction found)

theorem mem_keys_iff {key : K} {entries : List (K × V)} :
    key ∈ keys entries ↔ ∃ value, find? key entries = some value := by
  induction entries with
  | nil => simp [keys, find?]
  | cons entry rest induction =>
      by_cases same : key = entry.1
      · simp [keys, find?, same]
      · simpa [keys, find?, same] using induction

@[simp] theorem find?_erase_self (key : K) (entries : List (K × V)) :
    find? key (erase key entries) = none := by
  induction entries with
  | nil => simp [erase, find?]
  | cons entry rest induction =>
      by_cases same : key = entry.1
      · simpa [erase, same] using induction
      · simpa [erase, find?, same] using induction

theorem find?_erase_of_ne {key other : K} (different : other ≠ key) (entries : List (K × V)) :
    find? other (erase key entries) = find? other entries := by
  induction entries with
  | nil => simp [erase, find?]
  | cons entry rest induction =>
      by_cases same : key = entry.1
      · subst same
        simpa [erase, find?, different] using induction
      · simp only [erase, ne_eq, same, not_false_eq_true, decide_true, List.filter_cons_of_pos,
          find?] at induction ⊢
        rw [induction]

@[simp] theorem find?_mapValues (key : K) (change : V → W) (entries : List (K × V)) :
    find? key (mapValues change entries) = (find? key entries).map change := by
  induction entries with
  | nil => rfl
  | cons entry rest induction =>
      simp only [mapValues] at induction
      by_cases same : key = entry.1
      · simp [mapValues, find?, same]
      · simp [mapValues, find?, same, induction]

variable [LT K]

theorem Ascending.find?_of_mem [KeyOrder K] {entries : List (K × V)}
    (ascending : Ascending entries) {key : K} {value : V} (member : (key, value) ∈ entries) :
    find? key entries = some value := by
  induction entries with
  | nil => simp at member
  | cons first rest induction =>
      obtain ⟨smallest, ascendingRest⟩ := List.pairwise_cons.mp ascending
      rcases List.mem_cons.mp member with same | member
      · simp [find?, ← same]
      · have greater : first.1 < key := smallest (key, value) member
        have different : key ≠ first.1 := by
          intro same
          rw [same] at greater
          exact KeyOrder.irrefl first.1 greater
        simp [find?, different, induction ascendingRest member]

theorem Ascending.erase {entries : List (K × V)} (ascending : Ascending entries) (key : K) :
    Ascending (Assoc.erase key entries) :=
  List.Pairwise.filter _ ascending

omit [DecidableEq K] in
theorem Ascending.mapValues {entries : List (K × V)} (ascending : Ascending entries)
    (change : V → W) : Ascending (Assoc.mapValues change entries) :=
  List.pairwise_map.mpr ascending

variable [DecidableLT K]

def insert (key : K) (value : V) : List (K × V) → List (K × V)
  | [] => [(key, value)]
  | entry :: rest =>
      if key < entry.1 then (key, value) :: entry :: rest
      else if key = entry.1 then (key, value) :: rest
      else entry :: insert key value rest

/-- Sort entries by key; of several entries with one key the last one stays. -/
def ofList (entries : List (K × V)) : List (K × V) :=
  entries.foldl (fun sorted entry => insert entry.1 entry.2 sorted) []

@[simp] theorem find?_insert_self (key : K) (value : V) (entries : List (K × V)) :
    find? key (insert key value entries) = some value := by
  induction entries with
  | nil => simp [insert, find?]
  | cons entry rest induction =>
      simp only [insert]
      split
      · simp [find?]
      · split
        · simp [find?]
        · next different => simpa [find?, different] using induction

theorem find?_insert_of_ne {key other : K} (different : other ≠ key) (value : V)
    (entries : List (K × V)) : find? other (insert key value entries) = find? other entries := by
  induction entries with
  | nil => simp [insert, find?, different]
  | cons entry rest induction =>
      simp only [insert]
      split
      · simp [find?, different]
      · split
        · next same => simp [find?, different, ← same]
        · simp [find?, induction]

theorem mem_insert {key : K} {value : V} {entries : List (K × V)} {entry : K × V}
    (member : entry ∈ insert key value entries) : entry = (key, value) ∨ entry ∈ entries := by
  induction entries with
  | nil => simpa [insert] using member
  | cons first rest induction =>
      simp only [insert] at member
      split at member
      · simpa using member
      · split at member
        · simp only [List.mem_cons] at member ⊢
          exact member.imp_right .inr
        · simp only [List.mem_cons] at member ⊢
          rcases member with same | member
          · exact .inr (.inl same)
          · exact (induction member).imp_right .inr

theorem mem_keys_insert {key other : K} {value : V} {entries : List (K × V)} :
    other ∈ keys (insert key value entries) ↔ other = key ∨ other ∈ keys entries := by
  by_cases same : other = key
  · subst same
    simp [mem_keys_iff]
  · simp [mem_keys_iff, find?_insert_of_ne same, same]

variable [KeyOrder K]

theorem Ascending.insert {entries : List (K × V)} (ascending : Ascending entries) (key : K)
    (value : V) : Ascending (Assoc.insert key value entries) := by
  induction entries with
  | nil => exact List.pairwise_singleton _ _
  | cons first rest induction =>
      obtain ⟨smallest, ascendingRest⟩ := List.pairwise_cons.mp ascending
      simp only [Assoc.insert]
      split
      · next smaller =>
          refine List.pairwise_cons.mpr ⟨?_, ascending⟩
          intro entry member
          rcases List.mem_cons.mp member with same | member
          · exact same ▸ smaller
          · exact KeyOrder.trans smaller (smallest entry member)
      · split
        · next same => exact List.pairwise_cons.mpr ⟨same ▸ smallest, ascendingRest⟩
        · next notSmaller different =>
            have greater : first.1 < key :=
              Decidable.byContradiction fun notGreater =>
                different (KeyOrder.eq_of_not_lt notSmaller notGreater)
            refine List.pairwise_cons.mpr ⟨?_, induction ascendingRest⟩
            intro entry member
            rcases mem_insert member with same | member
            · exact same ▸ greater
            · exact smallest entry member

theorem ascending_ofList (entries : List (K × V)) : Ascending (ofList entries) := by
  have folded (sorted : List (K × V)) (ascending : Ascending sorted) :
      Ascending (entries.foldl (fun sorted entry => insert entry.1 entry.2 sorted) sorted) := by
    induction entries generalizing sorted with
    | nil => exact ascending
    | cons entry rest induction => exact induction _ (ascending.insert entry.1 entry.2)
  exact folded [] ascending_nil

omit [KeyOrder K] in
theorem mem_keys_ofList {key : K} {entries : List (K × V)} :
    key ∈ keys (ofList entries) ↔ key ∈ keys entries := by
  have folded (sorted : List (K × V)) :
      key ∈ keys (entries.foldl (fun sorted entry => insert entry.1 entry.2 sorted) sorted) ↔
        key ∈ keys entries ∨ key ∈ keys sorted := by
    induction entries generalizing sorted with
    | nil => simp [keys]
    | cons entry rest induction =>
        rw [List.foldl_cons, induction, mem_keys_insert]
        simp only [keys, List.map_cons, List.mem_cons, or_assoc]
        exact or_left_comm
  have absent : key ∉ keys ([] : List (K × V)) := List.not_mem_nil
  exact (folded []).trans (or_iff_left absent)

end ServiceStub.Assoc
