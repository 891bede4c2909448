import ServiceStub.Json.Printer
import ServiceStub.Matching
import ServiceStub.Text.Chars

/-! How one document differs from another, and whether one contains the other. -/

namespace ServiceStub.Json

mutual

/-- Whether `actual` holds everything in `expected`: an object may have further members, an
array further items, and each expected item needs an item of its own in any position. -/
def includes (expected actual : Json) : Bool :=
  match expected with
  | .object expected =>
      match actual with
      | .object actual => includesMembers expected actual
      | _ => false
  | .array expected =>
      match actual with
      | .array actual =>
          expected.length ≤ actual.length &&
            Matching.maximum (inclusions expected actual) actual.length == expected.length
      | _ => false
  | .number expected =>
      match actual with
      | .number actual => expected.toFloat == actual.toFloat
      | _ => false
  | .null => actual == .null
  | .bool value => actual == .bool value
  | .string text => actual == .string text

def includesMembers (expected actual : List (String × Json)) : Bool :=
  match expected with
  | [] => true
  | (key, value) :: expected =>
      (match Assoc.find? key actual with
        | some other => includes value other
        | none => false) &&
        includesMembers expected actual

def inclusions (expected actual : List Json) : List (List Bool) :=
  match expected with
  | [] => []
  | item :: expected => actual.map (includes item) :: inclusions expected actual

end

mutual

/-- Put the items of every array in the order of their texts. -/
def sortItems : Json → Json
  | .array items =>
      .array ((sortEach items).mergeSort fun left right => left.compact ≤ right.compact)
  | .object members => .object (sortValues members)
  | .null => .null
  | .bool value => .bool value
  | .number value => .number value
  | .string text => .string text

def sortEach : List Json → List Json
  | [] => []
  | item :: items => item.sortItems :: sortEach items

def sortValues : List (String × Json) → List (String × Json)
  | [] => []
  | (key, value) :: members => (key, value.sortItems) :: sortValues members

end

mutual

/-- How many values a document consists of, an empty array or object counting as one. -/
def leafCount : Json → Nat
  | .array items => max (itemLeaves items) 1
  | .object members => max (memberLeaves members) 1
  | .null => 1
  | .bool _ => 1
  | .number _ => 1
  | .string _ => 1

def itemLeaves : List Json → Nat
  | [] => 0
  | item :: items => item.leafCount + itemLeaves items

def memberLeaves : List (String × Json) → Nat
  | [] => 0
  | (_, value) :: members => value.leafCount + memberLeaves members

end

inductive Comparison where
  | strict
  | inclusive
  deriving DecidableEq, Repr

mutual

def differences (comparison : Comparison) (path : String) (expected actual : Json) :
    List String :=
  match expected with
  | .array expected =>
      match actual with
      | .array actual => itemDifferences comparison path 0 expected actual
      | _ => [path]
  | .object expected =>
      match actual with
      | .object actual =>
          memberDifferences comparison path expected actual ++
            (match comparison with
              | .inclusive => []
              | .strict =>
                  (actual.filter fun member => (Assoc.find? member.1 expected).isNone).map
                    fun member => path ++ "." ++ member.1)
      | _ => [path]
  | .null => if actual == .null then [] else [path]
  | .bool value => if actual == .bool value then [] else [path]
  | .number value => if actual == .number value then [] else [path]
  | .string text => if actual == .string text then [] else [path]

def itemDifferences (comparison : Comparison) (path : String) (index : Nat)
    (expected actual : List Json) : List String :=
  match expected with
  | [] =>
      match comparison with
      | .inclusive => []
      | .strict =>
          (List.range actual.length).map fun offset =>
            path ++ "[" ++ toString (index + offset) ++ "]"
  | item :: expected =>
      let here := path ++ "[" ++ toString index ++ "]"
      match actual with
      | [] => here :: itemDifferences comparison path (index + 1) expected []
      | other :: actual =>
          differences comparison here item other ++
            itemDifferences comparison path (index + 1) expected actual

def memberDifferences (comparison : Comparison) (path : String)
    (expected actual : List (String × Json)) : List String :=
  match expected with
  | [] => []
  | (key, value) :: expected =>
      (match Assoc.find? key actual with
        | some other => differences comparison (path ++ "." ++ key) value other
        | none => [path ++ "." ++ key]) ++
        memberDifferences comparison path expected actual

end

end ServiceStub.Json
