import ServiceStub.Assoc

namespace ServiceStub

/-- Entries in ascending order of their keys, with one entry for each key. -/
structure Table (K V : Type) [LT K] where
  toList : List (K × V) := []
  ascending : Assoc.Ascending toList := by exact Assoc.ascending_nil
  deriving Repr, DecidableEq

namespace Table

variable {K V W : Type} [LT K]

def isEmpty (table : Table K V) : Bool := table.toList.isEmpty

def keys (table : Table K V) : List K := Assoc.keys table.toList

def values (table : Table K V) : List V := Assoc.values table.toList

def mapValues (change : V → W) (table : Table K V) : Table K W :=
  ⟨Assoc.mapValues change table.toList, table.ascending.mapValues change⟩

theorem keys_ascending (table : Table K V) : table.keys.Pairwise (· < ·) :=
  List.pairwise_map.mpr table.ascending

variable [DecidableEq K]

def find? (table : Table K V) (key : K) : Option V := Assoc.find? key table.toList

def erase (table : Table K V) (key : K) : Table K V :=
  ⟨Assoc.erase key table.toList, table.ascending.erase key⟩

@[simp] theorem find?_empty (key : K) : ({} : Table K V).find? key = none := rfl

theorem mem_keys_iff {table : Table K V} {key : K} :
    key ∈ table.keys ↔ ∃ value, table.find? key = some value :=
  Assoc.mem_keys_iff

theorem mem_toList_iff [Assoc.KeyOrder K] {table : Table K V} {key : K} {value : V} :
    (key, value) ∈ table.toList ↔ table.find? key = some value :=
  ⟨table.ascending.find?_of_mem, Assoc.mem_of_find?⟩

theorem isEmpty_iff {table : Table K V} : table.isEmpty ↔ ∀ key, table.find? key = none := by
  rcases table with ⟨entries, ascending⟩
  cases entries with
  | nil => simp [isEmpty, find?, Assoc.find?]
  | cons entry rest =>
      have found : Assoc.find? entry.1 (entry :: rest) = some entry.2 := by simp [Assoc.find?]
      simp only [isEmpty, find?, List.isEmpty_cons, Bool.false_eq_true, false_iff]
      intro absent
      simp [absent] at found

@[simp] theorem find?_erase_self (table : Table K V) (key : K) :
    (table.erase key).find? key = none :=
  Assoc.find?_erase_self key table.toList

theorem find?_erase_of_ne {key other : K} (different : other ≠ key) (table : Table K V) :
    (table.erase key).find? other = table.find? other :=
  Assoc.find?_erase_of_ne different table.toList

@[simp] theorem find?_mapValues (change : V → W) (table : Table K V) (key : K) :
    (table.mapValues change).find? key = (table.find? key).map change :=
  Assoc.find?_mapValues key change table.toList

variable [DecidableLT K] [Assoc.KeyOrder K]

def insert (table : Table K V) (key : K) (value : V) : Table K V :=
  ⟨Assoc.insert key value table.toList, table.ascending.insert key value⟩

@[simp] theorem find?_insert_self (table : Table K V) (key : K) (value : V) :
    (table.insert key value).find? key = some value :=
  Assoc.find?_insert_self key value table.toList

theorem find?_insert_of_ne {key other : K} (different : other ≠ key) (table : Table K V)
    (value : V) : (table.insert key value).find? other = table.find? other :=
  Assoc.find?_insert_of_ne different value table.toList

end Table

end ServiceStub
