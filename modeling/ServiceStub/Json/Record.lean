import ServiceStub.Json.Basic

namespace ServiceStub

variable {α β : Type}

structure Record where
  fields : List (String × Json)

namespace Record

/-- Fields by name, where undeclared ones are passed over and none may stand twice, or fields
as the items of a list, in the order of their declaration. -/
def ofJson (names : List String) : Json → Option Record
  | .object members =>
      let fields := members.filter fun member => names.contains member.1
      if (fields.map Prod.fst).Nodup then some ⟨fields⟩ else none
  | .array items => if items.length ≤ names.length then some ⟨names.zip items⟩ else none
  | _ => none

def ofMembers (names : List String) : Json → Option Record
  | .object members => ofJson names (.object members)
  | _ => none

def get? (record : Record) (name : String) : Option Json := record.fields.lookup name

/-- A field that may be missing or null. -/
def optional (record : Record) (name : String) (read : Json → Option α) : Option (Option α) :=
  match record.get? name with
  | none => some none
  | some .null => some none
  | some value => (read value).map some

def withDefault (record : Record) (name : String) (default : α) (read : Json → Option α) :
    Option α :=
  match record.get? name with
  | none => some default
  | some value => read value

def required (record : Record) (name : String) (read : Json → Option α) : Option α :=
  (record.get? name).bind read

end Record

namespace Json

def asBool? : Json → Option Bool
  | .bool value => some value
  | _ => none

def asInt? : Json → Option Int
  | .number (.integer value) => some value
  | _ => none

def asNatUpTo? (bound : Nat) (value : Json) : Option Nat :=
  value.asNat?.filter fun number => number ≤ bound

def asPort? : Json → Option Nat := asNatUpTo? 65535

def asSignedWord? (value : Json) : Option Int :=
  value.asInt?.filter fun number => number < 0x8000000000000000

def listOf? (read : Json → Option α) : Json → Option (List α)
  | .array items => items.mapM read
  | _ => none

/-- All entries of an object, sorted by name; of entries of one name the last one stays. -/
def tableOf? (read : Json → Option α) : Json → Option (List (String × α))
  | .object members =>
      (members.mapM fun (member : String × Json) =>
        (read member.2).map fun value => (member.1, value)).map Assoc.ofList
  | _ => none

def pairOf? (first : Json → Option α) (second : Json → Option β) : Json → Option (α × β)
  | .array [left, right] => do return (← first left, ← second right)
  | _ => none

mutual

def depth : Json → Nat
  | .array items => itemsDepth items + 1
  | .object members => membersDepth members + 1
  | .null => 0
  | .bool _ => 0
  | .number _ => 0
  | .string _ => 0

def itemsDepth : List Json → Nat
  | [] => 0
  | item :: items => max item.depth (itemsDepth items)

def membersDepth : List (String × Json) → Nat
  | [] => 0
  | (_, value) :: members => max value.depth (membersDepth members)

end

end Json

end ServiceStub
