import ServiceStub.Proofs.Text.Chars
import ServiceStub.Uuid

/-! An id is read back from its text. -/

namespace ServiceStub

namespace Uuid

def digitChar (digit : Nat) : Char :=
  Char.ofNat (if digit < 10 then 48 + digit else 87 + digit)

private theorem hexDigit?_digitChar :
    ∀ digit < 16, Text.hexDigit? (digitChar digit) = some digit := by
  decide

private theorem digitChar_ne_hyphen : ∀ digit < 16, (digitChar digit == '-') = false := by
  decide

private theorem digits_eq (id : Uuid) :
    id.digits = (List.range 32).map fun position =>
      digitChar (id.value.toNat / Nat.pow 16 (31 - position) % 16) :=
  rfl

private theorem ne_hyphen_of_mem {id : Uuid} : ∀ c ∈ id.digits, (c == '-') = false := by
  intro c member
  rw [digits_eq] at member
  obtain ⟨position, -, rfl⟩ := List.mem_map.mp member
  exact digitChar_ne_hyphen _ (Nat.mod_lt _ (by decide))

private theorem hexadecimal?_digits (id : Uuid) :
    Text.hexadecimal? id.digits = some id.value.toNat := by
  -- After some digits the number read is the whole one without the digits that are left.
  have read (count : Nat) (bound : count ≤ 32) :
      ((List.range count).map fun position =>
        digitChar (id.value.toNat / 16 ^ (31 - position) % 16)).foldl
          (fun value digit => value.bind fun value =>
            (Text.hexDigit? digit).map fun digit => value * 16 + digit) (some 0) =
        some (id.value.toNat / 16 ^ (32 - count)) := by
    induction count with
    | zero =>
        have small : id.value.toNat < 16 ^ 32 := id.value.isLt
        rw [Nat.div_eq_of_lt small]
        rfl
    | succ count induction =>
        have shift : 16 ^ (32 - count) = 16 ^ (31 - count) * 16 := by
          rw [← Nat.pow_succ]
          congr 1
          omega
        have others : 32 - (count + 1) = 31 - count := by omega
        rw [List.range_succ, List.map_append, List.foldl_append, induction (by omega)]
        simp only [List.map_cons, List.map_nil, List.foldl_cons, List.foldl_nil,
          Option.bind_some, hexDigit?_digitChar _ (Nat.mod_lt _ (show 0 < 16 by decide)),
          Option.map_some]
        rw [shift, ← Nat.div_div_eq_div_mul, others, Nat.mul_comm, Nat.div_add_mod]
  have whole := read 32 (Nat.le_refl 32)
  rw [Nat.sub_self, Nat.pow_zero, Nat.div_one] at whole
  have filled : id.digits.isEmpty = false := rfl
  rw [Text.hexadecimal?, filled, if_neg Bool.false_ne_true, digits_eq]
  exact whole

private theorem ofDigits?_digits (id : Uuid) : ofDigits? id.digits = some id := by
  have counted : (id.digits.length == 32) = true := rfl
  rw [ofDigits?, if_pos counted, hexadecimal?_digits, Option.map_some, BitVec.ofNat_toNat,
    BitVec.setWidth_eq]

def groups (id : Uuid) : List (List Char) :=
  [id.digits.take 8, (id.digits.drop 8).take 4, (id.digits.drop 12).take 4,
    (id.digits.drop 16).take 4, id.digits.drop 20]

private theorem splitAt_toString (id : Uuid) :
    Text.splitAt (· == '-') id.toString.toList = id.groups := by
  have free {part : List Char} (included : part ⊆ id.digits) :
      ∀ c ∈ part, (c == '-') = false :=
    fun c member => ne_hyphen_of_mem c (included member)
  have middle (start : Nat) : (id.digits.drop start).take 4 ⊆ id.digits :=
    fun c member => List.mem_of_mem_drop (List.mem_of_mem_take member)
  rw [toString, String.toList_ofList]
  simp only [List.append_assoc, List.cons_append]
  rw [Text.splitAt_append (free (List.take_subset ..)) rfl,
    Text.splitAt_append (free (middle 8)) rfl, Text.splitAt_append (free (middle 12)) rfl,
    Text.splitAt_append (free (middle 16)) rfl,
    Text.splitAt_free (free (List.drop_subset ..)), groups]

private theorem ofGroups?_toString (id : Uuid) : ofGroups? id.toString.toList = some id := by
  have lengths : (id.groups.map List.length == [8, 4, 4, 4, 12]) = true := rfl
  have joined : id.groups.flatten = id.digits := rfl
  rw [ofGroups?, splitAt_toString, if_pos lengths, joined, ofDigits?_digits]

theorem ofString?_toString (id : Uuid) : ofString? id.toString = some id := by
  have grouped : ofDigits? id.toString.toList = none := by
    rw [toString, String.toList_ofList]
    rfl
  simp only [ofString?, grouped, ofGroups?_toString]

end Uuid

end ServiceStub
