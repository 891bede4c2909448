import ServiceStub.Assoc

namespace ServiceStub

/-- A JSON number: a 64-bit integer, or a double for everything else. -/
inductive JsonNumber where
  | integer (value : Int)
  | double (value : Float)
  deriving Repr, Inhabited

namespace JsonNumber

/-- An integer is never equal to a double, whatever their values. -/
def equal : JsonNumber → JsonNumber → Bool
  | .integer left, .integer right => left == right
  | .double left, .double right => left == right
  | _, _ => false

def toFloat : JsonNumber → Float
  | .integer value => Float.ofInt value
  | .double value => value

end JsonNumber

/-- A JSON document.  Members stand as they were written; a value in `canonical` form has
them in ascending order of their keys and each key once. -/
inductive Json where
  | null
  | bool (value : Bool)
  | number (value : JsonNumber)
  | string (text : String)
  | array (items : List Json)
  | object (members : List (String × Json))
  deriving Repr, Inhabited

namespace Json

mutual

/-- Sort the members of every object; of several members with one key the last one stays. -/
def canonical : Json → Json
  | .null => .null
  | .bool value => .bool value
  | .number value => .number value
  | .string text => .string text
  | .array items => .array (canonicalItems items)
  | .object members => .object (Assoc.ofList (canonicalMembers members))

def canonicalItems : List Json → List Json
  | [] => []
  | item :: items => item.canonical :: canonicalItems items

def canonicalMembers : List (String × Json) → List (String × Json)
  | [] => []
  | (key, value) :: members => (key, value.canonical) :: canonicalMembers members

end

mutual

def equal : Json → Json → Bool
  | .null, .null => true
  | .bool left, .bool right => left == right
  | .number left, .number right => left.equal right
  | .string left, .string right => left == right
  | .array left, .array right => equalItems left right
  | .object left, .object right => equalMembers left right
  | _, _ => false

def equalItems : List Json → List Json → Bool
  | [], [] => true
  | left :: lefts, right :: rights => left.equal right && equalItems lefts rights
  | _, _ => false

def equalMembers : List (String × Json) → List (String × Json) → Bool
  | [], [] => true
  | (leftKey, left) :: lefts, (rightKey, right) :: rights =>
      leftKey == rightKey && left.equal right && equalMembers lefts rights
  | _, _ => false

end

instance : BEq Json := ⟨equal⟩

variable {α : Type}

def ofNat (value : Nat) : Json := .number (.integer value)

def ofInt (value : Int) : Json := .number (.integer value)

def ofFloat (value : Float) : Json := if value.isFinite then .number (.double value) else .null

def ofOption (encode : α → Json) : Option α → Json
  | none => .null
  | some value => encode value

def asString? : Json → Option String
  | .string text => some text
  | _ => none

def asArray? : Json → Option (List Json)
  | .array items => some items
  | _ => none

def asObject? : Json → Option (List (String × Json))
  | .object members => some members
  | _ => none

def asFloat? : Json → Option Float
  | .number value => some value.toFloat
  | _ => none

def asNat? : Json → Option Nat
  | .number (.integer value) => if 0 ≤ value then some value.toNat else none
  | _ => none

def member? (key : String) : Json → Option Json
  | .object members => Assoc.find? key members
  | _ => none

def record (fields : List (String × Option Json)) : Json :=
  .object (Assoc.ofList (fields.filterMap fun field => field.2.map fun value => (field.1, value)))

def tableOption (encode : α → Json) (table : List (String × α)) : Option Json :=
  if table.isEmpty then none else some (.object (Assoc.mapValues encode table))

def listOption (encode : α → Json) (items : List α) : Option Json :=
  if items.isEmpty then none else some (.array (items.map encode))

end Json

end ServiceStub
