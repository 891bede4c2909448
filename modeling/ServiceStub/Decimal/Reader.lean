import ServiceStub.Text.Chars

namespace ServiceStub.Decimal

def nearestDouble (significand : Nat) (exponent : Int) : Float :=
  if significand == 0 then 0.0
  else
    let places : Int := (Text.decimalDigits significand).length + exponent
    if 400 < places then 1.0 / 0.0
    else if places < -400 then 0.0
    else
      match exponent with
      | .ofNat exponent => Float.ofScientific significand false exponent
      | .negSucc exponent => Float.ofScientific significand true (exponent + 1)

def exponent? : List Char → Option Int
  | [] => some 0
  | letter :: text =>
      if letter == 'e' || letter == 'E' then
        Text.signedDecimal? (-1000000000) 1000000000 text
      else none

def magnitude? (text : List Char) : Option Float := do
  let whole := text.takeWhile Char.isDigit
  let rest := text.dropWhile Char.isDigit
  let (fraction, rest) :=
    match rest with
    | '.' :: rest => (rest.takeWhile Char.isDigit, rest.dropWhile Char.isDigit)
    | rest => ([], rest)
  let significand ← Text.decimal? (whole ++ fraction)
  let exponent ← exponent? rest
  return nearestDouble significand (exponent - fraction.length)

def named? (text : List Char) : Option Float :=
  match String.ofList (text.map Text.asciiLower) with
  | "inf" => some (1.0 / 0.0)
  | "infinity" => some (1.0 / 0.0)
  | "nan" => some (0.0 / 0.0)
  | _ => none

/-- The double a text denotes, with an optional sign in front. -/
def ofText? (text : List Char) : Option Float :=
  let (negative, text) :=
    match text with
    | '-' :: text => (true, text)
    | '+' :: text => (false, text)
    | text => (false, text)
  ((magnitude? text).orElse fun _ => named? text).map fun value =>
    if negative then -value else value

end ServiceStub.Decimal
