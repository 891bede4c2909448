import ServiceStub.Decimal.Shortest

namespace ServiceStub.Decimal

/-- Where a format writes numbers positionally: with at most `mostPlaces` places before the
point and more than `leastPlaces` (counted negatively) after it. -/
structure Layout where
  leastPlaces : Int
  mostPlaces : Int

namespace Layout

def double : Layout := ⟨-5, 16⟩

def single : Layout := ⟨-6, 13⟩

end Layout

def zeros (count : Nat) : List Char := List.replicate count '0'

/-- Digits with the point after `places` of them; a whole number gets `wholeEnd`. -/
def positional (digits : List Char) (places : Int) (wholeEnd : List Char) : List Char :=
  if (digits.length : Int) ≤ places then
    digits ++ zeros (places - digits.length).toNat ++ wholeEnd
  else if 0 < places then
    digits.take places.toNat ++ '.' :: digits.drop places.toNat
  else
    '0' :: '.' :: zeros (-places).toNat ++ digits

def signedText (value : Int) : List Char :=
  if 0 ≤ value then '+' :: (toString value).toList else (toString value).toList

def signed (negative : Bool) (text : List Char) : String :=
  String.ofList (if negative then '-' :: text else text)

/-- A number that keeps a point or an exponent, so that it reads back as no integer. -/
def Layout.render (style : Layout) (negative : Bool) (value : Scaled) : String :=
  let digits := (toString value.digits).toList
  let places : Int := if value.digits == 0 then 1 else digits.length + value.exponent
  signed negative <|
    if style.leastPlaces < places && places ≤ style.mostPlaces then
      positional digits places ['.', '0']
    else
      let exponent := signedText (places - 1)
      match digits with
      | [] => []
      | [digit] => digit :: 'e' :: exponent
      | digit :: rest => digit :: '.' :: rest ++ 'e' :: exponent

/-- A double as it stands in a JSON text; a value that is no number is `null`. -/
def jsonText (value : Float) : String :=
  if value.isFinite then
    let binary := Binary.ofFloat value
    Layout.double.render binary.negative (shortest .double binary)
  else "null"

def jsonText32 (value : Float32) : String :=
  if value.isFinite then
    let binary := Binary.ofFloat32 value
    Layout.single.render binary.negative (shortest .single binary)
  else "null"

/-- A double in full, without an exponent and without a point where it is whole. -/
def plainText (value : Float) : String :=
  if value.isNaN then "NaN"
  else if value.isFinite then
    let binary := Binary.ofFloat value
    let scaled := shortest .double binary
    let digits := (toString scaled.digits).toList
    let places : Int := if scaled.digits == 0 then 1 else digits.length + scaled.exponent
    signed binary.negative (positional digits places [])
  else if value < 0.0 then "-inf" else "inf"

/-- A quotient of naturals rounded to a whole number, a half to the even neighbour. -/
def roundHalfEven (numerator denominator : Nat) : Nat :=
  let below := numerator / denominator
  let remainder := numerator % denominator
  if 2 * remainder < denominator then below
  else if denominator < 2 * remainder then below + 1
  else if below % 2 == 0 then below else below + 1

def fixedText (places : Nat) (value : Float) : String :=
  let binary := Binary.ofFloat value
  let (numerator, denominator) := binary.magnitude
  let scaled := roundHalfEven (numerator * Nat.pow 10 places) denominator
  let digits := (toString scaled).toList
  let padded := zeros (places + 1 - digits.length) ++ digits
  let whole := padded.length - places
  signed binary.negative (padded.take whole ++ '.' :: padded.drop whole)

end ServiceStub.Decimal
