import ServiceStub.Assoc
import ServiceStub.Text.Chars

namespace ServiceStub

structure Uuid where
  value : BitVec 128
  deriving DecidableEq, Repr, Inhabited

namespace Uuid

instance : LT Uuid := ⟨fun left right => left.value < right.value⟩

instance : DecidableLT Uuid := fun left right =>
  inferInstanceAs (Decidable (left.value < right.value))

theorem lt_iff {left right : Uuid} : left < right ↔ left.value < right.value := .rfl

instance : Assoc.KeyOrder Uuid where
  irrefl id := by
    rw [lt_iff]
    exact BitVec.lt_irrefl id.value
  trans first second := lt_iff.mpr (BitVec.lt_trans (lt_iff.mp first) (lt_iff.mp second))
  eq_of_not_lt notSmaller notGreater := by
    rw [lt_iff, BitVec.not_lt] at notSmaller notGreater
    exact congrArg Uuid.mk (BitVec.le_antisymm notGreater notSmaller)

def nil : Uuid := ⟨0⟩

/-- The hexadecimal digits, most significant first, without hyphens. -/
def digits (id : Uuid) : List Char :=
  (List.range 32).map fun position =>
    Char.ofNat <|
      let digit := id.value.toNat / Nat.pow 16 (31 - position) % 16
      if digit < 10 then 48 + digit else 87 + digit

def toString (id : Uuid) : String :=
  let digits := id.digits
  String.ofList <|
    digits.take 8 ++ '-' :: (digits.drop 8).take 4 ++ '-' :: (digits.drop 12).take 4 ++
      '-' :: (digits.drop 16).take 4 ++ '-' :: digits.drop 20

def ofDigits? (digits : List Char) : Option Uuid :=
  if digits.length == 32 then (Text.hexadecimal? digits).map fun value => ⟨.ofNat 128 value⟩
  else none

def ofGroups? (text : List Char) : Option Uuid :=
  let groups := Text.splitAt (· == '-') text
  if groups.map List.length == [8, 4, 4, 4, 12] then ofDigits? groups.flatten else none

/-- Read an id as bare digits, in groups, in groups between braces or as a URN. -/
def ofString? (text : String) : Option Uuid :=
  let chars := text.toList
  match ofDigits? chars with
  | some id => some id
  | none =>
      match ofGroups? chars with
      | some id => some id
      | none =>
          match (Text.stripStart? ['\x7b'] chars).bind (Text.stripEnd? ['\x7d']) with
          | some inner => ofGroups? inner
          | none => (Text.stripStart? "urn:uuid:".toList chars).bind ofGroups?

end Uuid

end ServiceStub
