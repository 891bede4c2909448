import ServiceStub.Decimal.Text
import ServiceStub.Proofs.Decimal.Shortest
import ServiceStub.Proofs.Text.Chars

/-!
A number is read off its text: the digits and the point before the letter `e`, and the exponent
after it.  So no two numbers have one text.
-/

namespace ServiceStub.Decimal

open Nat (ofDigitChars toDigits)

def exponentOf : List Char → Int
  | '+' :: digits => (ofDigitChars 10 digits 0 : Int)
  | '-' :: digits => -(ofDigitChars 10 digits 0 : Int)
  | _ => 0

def mantissaOf (text : List Char) : Rat :=
  match Text.splitOnce '.' text with
  | some (whole, fraction) =>
      ofDigitChars 10 (whole ++ fraction) 0 * 10 ^ (-(fraction.length : Int))
  | none => ofDigitChars 10 text 0

def valueOf (text : List Char) : Rat :=
  match Text.splitOnce 'e' text with
  | some (mantissa, exponent) => mantissaOf mantissa * 10 ^ exponentOf exponent
  | none => mantissaOf text

def isNumeric (c : Char) : Bool := c.isDigit || c == '.' || c == 'e' || c == '+' || c == '-'

private theorem not_mem_digits {digits : List Char} (each : ∀ c ∈ digits, c.isDigit) {c : Char}
    (other : c.isDigit = false) : c ∉ digits := fun member => by
  rw [each c member] at other
  cases other

private theorem isNumeric_of_isDigit {c : Char} (digit : c.isDigit) : isNumeric c := by
  simp [isNumeric, digit]

private theorem isDigit_toDigits (number : Nat) : ∀ c ∈ toDigits 10 number, c.isDigit :=
  fun _ member => Nat.isDigit_of_mem_toDigits (by decide) (by decide) member

private theorem isDigit_zeros (count : Nat) : ∀ c ∈ zeros count, c.isDigit := by
  intro c member
  rw [List.eq_of_mem_replicate member]
  rfl

private theorem mantissaOf_point {whole fraction : List Char} (each : ∀ c ∈ whole, c.isDigit) :
    mantissaOf (whole ++ '.' :: fraction) =
      ofDigitChars 10 (whole ++ fraction) 0 * 10 ^ (-(fraction.length : Int)) := by
  rw [mantissaOf, Text.splitOnce_append (not_mem_digits each rfl)]

private theorem mantissaOf_digits {digits : List Char} (each : ∀ c ∈ digits, c.isDigit) :
    mantissaOf digits = ofDigitChars 10 digits 0 := by
  rw [mantissaOf, Text.splitOnce_free (not_mem_digits each rfl)]

private theorem valueOf_plain {text : List Char} (free : 'e' ∉ text) :
    valueOf text = mantissaOf text := by
  rw [valueOf, Text.splitOnce_free free]

private theorem valueOf_exponent {mantissa : List Char} (free : 'e' ∉ mantissa)
    (exponent : List Char) :
    valueOf (mantissa ++ 'e' :: exponent) = mantissaOf mantissa * 10 ^ exponentOf exponent := by
  rw [valueOf, Text.splitOnce_append free]

private theorem toList_toString_int (value : Int) : (toString value).toList =
    if 0 ≤ value then toDigits 10 value.toNat else '-' :: toDigits 10 (-value).toNat := by
  cases value with
  | ofNat number => simp [toString, Int.repr]
  | negSucc number => simp [toString, Int.repr]

private theorem exponentOf_signedText (value : Int) : exponentOf (signedText value) = value := by
  rw [signedText, toList_toString_int]
  split
  · next nonneg => simp [exponentOf, nonneg]
  · next negative =>
    simp only [exponentOf, Nat.ofDigitChars_ten_toDigits]
    omega

private theorem isNumeric_signedText (value : Int) : ∀ c ∈ signedText value, isNumeric c := by
  have digits (number : Nat) : ∀ c ∈ toDigits 10 number, isNumeric c := fun c member =>
    isNumeric_of_isDigit (isDigit_toDigits number c member)
  rw [signedText, toList_toString_int]
  split
  · exact List.forall_mem_cons.mpr ⟨rfl, digits _⟩
  · exact List.forall_mem_cons.mpr ⟨rfl, digits _⟩

/-- A text that reads as the value, and is told from those of integers. -/
structure Spells (text : List Char) (value : Rat) : Prop where
  starts : ∃ digit rest, text = digit :: rest ∧ digit.isDigit
  numeric : ∀ c ∈ text, isNumeric c
  marked : '.' ∈ text ∨ 'e' ∈ text
  value : valueOf text = value

private theorem starts_append {whole : List Char} (filled : whole ≠ [])
    (each : ∀ c ∈ whole, c.isDigit)
    (rest : List Char) : ∃ digit tail, whole ++ rest = digit :: tail ∧ digit.isDigit := by
  cases whole with
  | nil => exact absurd rfl filled
  | cons digit whole => exact ⟨digit, whole ++ rest, rfl, each digit List.mem_cons_self⟩

private theorem isNumeric_point {whole fraction : List Char} (wholeDigits : ∀ c ∈ whole, c.isDigit)
    (fractionDigits : ∀ c ∈ fraction, c.isDigit) :
    ∀ c ∈ whole ++ '.' :: fraction, isNumeric c :=
  List.forall_mem_append.mpr ⟨fun c member => isNumeric_of_isDigit (wholeDigits c member),
    List.forall_mem_cons.mpr
      ⟨rfl, fun c member => isNumeric_of_isDigit (fractionDigits c member)⟩⟩

private theorem not_mem_point {whole fraction : List Char} (wholeDigits : ∀ c ∈ whole, c.isDigit)
    (fractionDigits : ∀ c ∈ fraction, c.isDigit) : 'e' ∉ whole ++ '.' :: fraction := by
  have inWhole := not_mem_digits wholeDigits (rfl : 'e'.isDigit = false)
  have inFraction := not_mem_digits fractionDigits (rfl : 'e'.isDigit = false)
  simp [inWhole, inFraction]

private theorem spells_point {whole fraction : List Char} (filled : whole ≠ [])
    (wholeDigits : ∀ c ∈ whole, c.isDigit) (fractionDigits : ∀ c ∈ fraction, c.isDigit) :
    Spells (whole ++ '.' :: fraction)
      (ofDigitChars 10 (whole ++ fraction) 0 * 10 ^ (-(fraction.length : Int))) where
  starts := starts_append filled wholeDigits _
  numeric := isNumeric_point wholeDigits fractionDigits
  marked := .inl (by simp)
  value := by
    rw [valueOf_plain (not_mem_point wholeDigits fractionDigits), mantissaOf_point wholeDigits]

private theorem spells_exponent {mantissa : List Char} {real : Rat}
    (starts : ∃ digit rest, mantissa = digit :: rest ∧ digit.isDigit)
    (numeric : ∀ c ∈ mantissa, isNumeric c) (free : 'e' ∉ mantissa)
    (reads : mantissaOf mantissa = real) (exponent : Int) :
    Spells (mantissa ++ 'e' :: signedText exponent) (real * 10 ^ exponent) where
  starts := by
    obtain ⟨digit, rest, rfl, isDigit⟩ := starts
    exact ⟨digit, rest ++ 'e' :: signedText exponent, rfl, isDigit⟩
  numeric := List.forall_mem_append.mpr
    ⟨numeric, List.forall_mem_cons.mpr ⟨rfl, isNumeric_signedText exponent⟩⟩
  marked := .inr (by simp)
  value := by rw [valueOf_exponent free, reads, exponentOf_signedText]

private theorem ofDigitChars_zeros (count init : Nat) :
    ofDigitChars 10 (zeros count) init = 10 ^ count * init :=
  Nat.ofDigitChars_replicate_zero

private theorem spells_positional {digits : List Char} (filled : digits ≠ [])
    (each : ∀ c ∈ digits, c.isDigit) (places : Int) :
    Spells (positional digits places ['.', '0'])
      (ofDigitChars 10 digits 0 * 10 ^ (places - digits.length)) := by
  rw [positional]
  split
  · next whole =>
      have padded : ∀ c ∈ digits ++ zeros (places - digits.length).toNat, c.isDigit :=
        List.forall_mem_append.mpr ⟨each, isDigit_zeros _⟩
      have spells := spells_point (List.append_ne_nil_of_left_ne_nil filled _) padded
        (isDigit_zeros 1)
      have value : (ofDigitChars 10 (digits ++ zeros (places - digits.length).toNat ++ zeros 1) 0 :
          Rat) * 10 ^ (-((zeros 1).length : Int)) =
            ofDigitChars 10 digits 0 * 10 ^ (places - digits.length) := by
        rw [Nat.ofDigitChars_append, Nat.ofDigitChars_append, ofDigitChars_zeros,
          ofDigitChars_zeros, zpow_of_nonneg (by omega : 0 ≤ places - digits.length)]
        push_cast
        simp [zeros]
        ring
      rwa [value] at spells
  · next broken =>
      split
      · next positive =>
          have taken : digits.take places.toNat ≠ [] := by
            simp only [ne_eq, List.take_eq_nil_iff, filled, or_false]
            omega
          have before : ∀ c ∈ digits.take places.toNat, c.isDigit :=
            fun c member => each c (List.mem_of_mem_take member)
          have after : ∀ c ∈ digits.drop places.toNat, c.isDigit :=
            fun c member => each c (List.mem_of_mem_drop member)
          have spells := spells_point taken before after
          rw [List.take_append_drop, List.length_drop] at spells
          have exponent : -((digits.length - places.toNat : Nat) : Int) =
              places - digits.length := by omega
          rwa [exponent] at spells
      · next small =>
          have fraction : ∀ c ∈ zeros (-places).toNat ++ digits, c.isDigit :=
            List.forall_mem_append.mpr ⟨isDigit_zeros _, each⟩
          have spells := spells_point (List.cons_ne_nil '0' []) (isDigit_zeros 1) fraction
          have value : ofDigitChars 10 (['0'] ++ (zeros (-places).toNat ++ digits)) 0 =
              ofDigitChars 10 digits 0 := by
            rw [Nat.ofDigitChars_append, Nat.ofDigitChars_append]
            simp [ofDigitChars_zeros, Nat.ofDigitChars_cons]
          have exponent : -((zeros (-places).toNat ++ digits).length : Int) =
              places - digits.length := by
            simp only [zeros, List.length_append, List.length_replicate]
            omega
          rwa [value, exponent] at spells

/-- One digit, a point before the other digits if there are any, and an exponent. -/
def scientific (places : Int) : List Char → List Char
  | [] => []
  | [digit] => digit :: 'e' :: signedText (places - 1)
  | digit :: rest => digit :: '.' :: rest ++ 'e' :: signedText (places - 1)

private theorem spells_scientific {digits : List Char} (filled : digits ≠ [])
    (each : ∀ c ∈ digits, c.isDigit) (places : Int) :
    Spells (scientific places digits)
      (ofDigitChars 10 digits 0 * 10 ^ (places - digits.length)) := by
  cases digits with
  | nil => exact absurd rfl filled
  | cons digit rest =>
      obtain ⟨isDigit, others⟩ := List.forall_mem_cons.mp each
      have single : ∀ c ∈ [digit], c.isDigit := List.forall_mem_singleton.mpr isDigit
      cases rest with
      | nil =>
          exact spells_exponent ⟨digit, [], rfl, isDigit⟩
            (List.forall_mem_singleton.mpr (isNumeric_of_isDigit isDigit))
            (not_mem_digits each rfl) (mantissaOf_digits each) (places - 1)
      | cons second rest =>
          have spells := spells_exponent ⟨digit, '.' :: second :: rest, rfl, isDigit⟩
            (isNumeric_point single others) (not_mem_point single others)
            (mantissaOf_point single) (places - 1)
          have exponent : -((second :: rest).length : Int) + (places - 1) =
              places - ((digit :: second :: rest).length : Int) := by
            simp only [List.length_cons]
            omega
          rw [mul_assoc, ← zpow_add₀ (by norm_num), exponent] at spells
          exact spells

private theorem exists_spelling (style : Layout) (negative : Bool) (scaled : Scaled) :
    ∃ text, Spells text scaled.value ∧
      (style.render negative scaled).toList = if negative then '-' :: text else text := by
  let digits := (toString scaled.digits).toList
  let places : Int := if scaled.digits == 0 then 1 else digits.length + scaled.exponent
  let text := if style.leastPlaces < places && places ≤ style.mostPlaces then
    positional digits places ['.', '0'] else scientific places digits
  have rendered : style.render negative scaled = signed negative text := rfl
  have same : digits = toDigits 10 scaled.digits := Nat.toList_repr
  have each : ∀ c ∈ digits, c.isDigit := same ▸ isDigit_toDigits scaled.digits
  have filled : digits ≠ [] := same ▸ Nat.toDigits_ne_nil
  have value : (ofDigitChars 10 digits 0 : Rat) * 10 ^ (places - digits.length) =
      scaled.value := by
    rw [same, Nat.ofDigitChars_ten_toDigits, Scaled.value]
    by_cases zero : scaled.digits = 0
    · rw [zero, Nat.cast_zero, zero_mul, zero_mul]
    · have counted : places - (toDigits 10 scaled.digits).length = scaled.exponent := by
        simp [places, zero, same]
      rw [counted]
  refine ⟨text, ?_, by rw [rendered, signed, String.toList_ofList]⟩
  rw [← value]
  dsimp only [text]
  split
  · exact spells_positional filled each places
  · exact spells_scientific filled each places

private theorem render_inj {style : Layout} {negative otherNegative : Bool} {scaled other : Scaled}
    (same : style.render negative scaled = style.render otherNegative other) :
    negative = otherNegative ∧ scaled.value = other.value := by
  obtain ⟨text, spells, rendered⟩ := exists_spelling style negative scaled
  obtain ⟨otherText, otherSpells, otherRendered⟩ := exists_spelling style otherNegative other
  have unsigned {text rest : List Char} {value : Rat} (spells : Spells text value) :
      text ≠ '-' :: rest := by
    obtain ⟨digit, _, rfl, isDigit⟩ := spells.starts
    intro equal
    rw [(List.cons.inj equal).1] at isDigit
    cases isDigit
  have texts : (if negative then '-' :: text else text) =
      if otherNegative then '-' :: otherText else otherText := by
    rw [← rendered, ← otherRendered, same]
  rw [← spells.value, ← otherSpells.value]
  cases negative <;> cases otherNegative
  · exact ⟨rfl, congrArg valueOf texts⟩
  · exact absurd texts (unsigned spells)
  · exact absurd texts.symm (unsigned otherSpells)
  · exact ⟨rfl, congrArg valueOf (List.cons.inj texts).2⟩

theorem jsonText_inj {left right : Float} (finite : left.isFinite) (otherFinite : right.isFinite)
    (same : jsonText left = jsonText right) : left = right := by
  rw [jsonText, if_pos finite, jsonText, if_pos otherFinite] at same
  obtain ⟨signs, values⟩ := render_inj same
  exact Binary.eq_of_ofFloat (Binary.eq_of_shortest (Binary.isDouble_ofFloat left)
    (Binary.isDouble_ofFloat right) signs values)

structure IsNumeral (text : List Char) : Prop where
  filled : text ≠ []
  numeric : ∀ c ∈ text, isNumeric c

theorem isNumeral_toString (value : Int) : IsNumeral (toString value).toList := by
  have digits (number : Nat) : ∀ c ∈ Nat.toDigits 10 number, isNumeric c := fun c member =>
    isNumeric_of_isDigit (isDigit_toDigits number c member)
  rw [toList_toString_int]
  split
  · exact ⟨Nat.toDigits_ne_nil, digits _⟩
  · exact ⟨List.cons_ne_nil _ _, List.forall_mem_cons.mpr ⟨rfl, digits _⟩⟩

private theorem not_mem_toString {value : Int} {c : Char} (notDigit : c.isDigit = false)
    (notSign : c ≠ '-') : c ∉ (toString value).toList := by
  have notInDigits (number : Nat) := not_mem_digits (isDigit_toDigits number) notDigit
  rw [toList_toString_int]
  split
  · exact notInDigits _
  · exact List.not_mem_cons_of_ne_of_not_mem notSign (notInDigits _)

private theorem toDigits_inj {number other : Nat} (same : toDigits 10 number = toDigits 10 other) :
    number = other := by
  have numbers := congrArg (ofDigitChars 10 · 0) same
  simpa only [Nat.ofDigitChars_ten_toDigits] using numbers

theorem toString_int_inj {value other : Int} (same : toString value = toString other) :
    value = other := by
  have unsigned (number : Nat) (rest : List Char) : toDigits 10 number ≠ '-' :: rest :=
    fun signed => not_mem_digits (isDigit_toDigits number) rfl (signed ▸ List.mem_cons_self)
  have texts := congrArg String.toList same
  rw [toList_toString_int, toList_toString_int] at texts
  split_ifs at texts
  · have numbers := toDigits_inj texts
    omega
  · exact absurd texts (unsigned _ _)
  · exact absurd texts.symm (unsigned _ _)
  · have numbers := toDigits_inj (List.cons.inj texts).2
    omega

private theorem Spells.isNumeral {text : List Char} {value : Rat} (spells : Spells text value)
    (negative : Bool) : IsNumeral (if negative then '-' :: text else text) := by
  cases negative with
  | false =>
      obtain ⟨digit, rest, rfl, -⟩ := spells.starts
      exact ⟨List.cons_ne_nil _ _, spells.numeric⟩
  | true => exact ⟨List.cons_ne_nil _ _, List.forall_mem_cons.mpr ⟨rfl, spells.numeric⟩⟩

/-- The text of a double is a numeral, but none of an integer. -/
theorem isNumeral_jsonText {value : Float} (finite : value.isFinite) :
    IsNumeral (jsonText value).toList ∧
      ('.' ∈ (jsonText value).toList ∨ 'e' ∈ (jsonText value).toList) := by
  rw [jsonText, if_pos finite]
  obtain ⟨text, spells, rendered⟩ := exists_spelling .double (Binary.ofFloat value).negative
    (shortest .double (Binary.ofFloat value))
  rw [rendered]
  refine ⟨spells.isNumeral _, ?_⟩
  split
  · exact spells.marked.imp (List.mem_cons_of_mem _) (List.mem_cons_of_mem _)
  · exact spells.marked

theorem jsonText_ne_toString {value : Float} (finite : value.isFinite) (other : Int) :
    jsonText value ≠ toString other := by
  intro same
  rcases (isNumeral_jsonText finite).2 with point | exponent
  · rw [same] at point
    exact not_mem_toString rfl (by decide) point
  · rw [same] at exponent
    exact not_mem_toString rfl (by decide) exponent

end ServiceStub.Decimal
