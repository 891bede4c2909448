import ServiceStub.Text.Base64
import Mathlib.Data.Option.Basic
import Mathlib.Tactic.SplitIfs

/-! What is written in base64 is read back, and nothing else is read. -/

namespace ServiceStub.Text.Base64

private theorem sextet?_symbol : ∀ sextet < 64, sextet? (symbol sextet) = some sextet := by
  decide

private theorem symbol_ne_pad : ∀ sextet < 64, symbol sextet ≠ '=' := by
  decide

private theorem decodeChars_group {a b c d : Char} {rest : List Char} (notPad : d ≠ '=') :
    decodeChars (a :: b :: c :: d :: rest) = (do
      let a ← sextet? a
      let b ← sextet? b
      let c ← sextet? c
      let d ← sextet? d
      let rest ← decodeChars rest
      return UInt8.ofNat (a * 4 + b / 16) :: UInt8.ofNat (b % 16 * 16 + c / 4) ::
        UInt8.ofNat (c % 4 * 64 + d) :: rest) := by
  rw [decodeChars]
  · intro _ same
    exact absurd same notPad
  · intro same
    exact absurd same notPad

theorem ofNat_eq {byte : UInt8} {value : Nat} (same : value = byte.toNat) :
    UInt8.ofNat value = byte := by
  rw [same, UInt8.ofNat_toNat]

private theorem firstByte (a : UInt8) (next : Nat) (bound : next < 16) :
    UInt8.ofNat (a.toNat / 4 * 4 + (a.toNat % 4 * 16 + next) / 16) = a :=
  ofNat_eq (by omega)

private theorem secondByte (b : UInt8) (previous next : Nat) (bound : next < 4) :
    UInt8.ofNat ((previous * 16 + b.toNat / 16) % 16 * 16 + (b.toNat % 16 * 4 + next) / 4) = b := by
  have byteBound := b.toNat_lt
  exact ofNat_eq (by omega)

private theorem thirdByte (c : UInt8) (previous : Nat) :
    UInt8.ofNat ((previous * 4 + c.toNat / 64) % 4 * 64 + c.toNat % 64) = c := by
  have byteBound := c.toNat_lt
  exact ofNat_eq (by omega)

private theorem guard_eq {condition : Prop} [Decidable condition] (holds : condition) :
    (guard condition : Option Unit) = some () :=
  if_pos holds

private theorem decodeChars_encodeBytes (bytes : Bytes) :
    decodeChars (encodeBytes bytes) = some bytes := by
  -- The cases are those of the encoder: no, one or two bytes are left, or a whole group.
  induction bytes using encodeBytes.induct with
  | case1 => rfl
  | case2 a =>
      have bound := a.toNat_lt
      have first := firstByte a 0 (by omega)
      have unused : (a.toNat % 4 * 16 % 16 == 0) = true := by simp
      rw [encodeBytes, decodeChars, sextet?_symbol (a.toNat / 4) (by omega),
        sextet?_symbol (a.toNat % 4 * 16) (by omega)]
      rw [Nat.add_zero] at first
      simp only [Option.bind_eq_bind, Option.bind_some, guard_eq unused, pure, first]
  | case3 a b =>
      have bound := a.toNat_lt
      have otherBound := b.toNat_lt
      have notPad : symbol (b.toNat % 16 * 4) ≠ '=' := symbol_ne_pad _ (by omega)
      have first := firstByte a (b.toNat / 16) (by omega)
      have second := secondByte b (a.toNat % 4) 0 (by omega)
      have unused : (b.toNat % 16 * 4 % 4 == 0) = true := by simp
      rw [encodeBytes, decodeChars, sextet?_symbol (a.toNat / 4) (by omega),
        sextet?_symbol (a.toNat % 4 * 16 + b.toNat / 16) (by omega),
        sextet?_symbol (b.toNat % 16 * 4) (by omega)]
      · rw [Nat.add_zero] at second
        simp only [Option.bind_eq_bind, Option.bind_some, guard_eq unused, pure, first, second]
      · exact notPad
  | case4 a b c rest induction =>
      have bound := a.toNat_lt
      have otherBound := b.toNat_lt
      have lastBound := c.toNat_lt
      have notPad : symbol (c.toNat % 64) ≠ '=' := symbol_ne_pad _ (by omega)
      have first := firstByte a (b.toNat / 16) (by omega)
      have second := secondByte b (a.toNat % 4) (c.toNat / 64) (by omega)
      have third := thirdByte c (b.toNat % 16)
      rw [encodeBytes, decodeChars_group notPad, sextet?_symbol (a.toNat / 4) (by omega),
        sextet?_symbol (a.toNat % 4 * 16 + b.toNat / 16) (by omega),
        sextet?_symbol (b.toNat % 16 * 4 + c.toNat / 64) (by omega),
        sextet?_symbol (c.toNat % 64) (by omega), induction]
      simp only [Option.bind_eq_bind, Option.bind_some, pure, first, second, third]

theorem decode?_encode (bytes : Bytes) : decode? (encode bytes) = some bytes := by
  rw [decode?, encode, String.toList_ofList, decodeChars_encodeBytes]

theorem toNat_ofNat {value : Nat} (bound : value < 256) : (UInt8.ofNat value).toNat = value :=
  UInt8.toNat_ofNat_of_lt' bound

end ServiceStub.Text.Base64
