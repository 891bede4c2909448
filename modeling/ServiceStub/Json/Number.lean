import ServiceStub.Json.Basic

/-!
How the text of a number becomes a value.  Digits are collected into 64 bits as long as they
fit; a fraction or an exponent makes the number a double, whose value is the collected integer
multiplied or divided once by a power of ten.
-/

namespace ServiceStub.JsonNumber

def greatestWord : Nat := 0xFFFFFFFFFFFFFFFF

def powerOfTen (exponent : Nat) : Float := Float.ofScientific 1 false exponent

/-- The double `± significand · 10 ^ exponent`; nothing if it is out of range. -/
def scale (negative : Bool) (significand : Nat) (exponent : Int) : Option Float :=
  let sign (value : Float) : Float := if negative then -value else value
  let rec shrink (bound : Nat) (value : Float) (exponent : Nat) : Float :=
    match bound with
    | 0 => value
    | bound + 1 =>
        if exponent ≤ 308 then value / powerOfTen exponent
        else if value == 0.0 then value
        else shrink bound (value / powerOfTen 308) (exponent - 308)
  if 0 ≤ exponent then
    if significand == 0 then some (sign 0.0)
    else if 308 < exponent then none
    else
      let value := Float.ofNat significand * powerOfTen exponent.toNat
      if value.isFinite then some (sign value) else none
  else
    some (sign (shrink 8 (Float.ofNat significand) (-exponent).toNat))

def collect (significand : Nat) : (taken : Nat) → List Char → Nat × Nat × List Char
  | taken, [] => (significand, taken, [])
  | taken, digit :: rest =>
      if digit.isDigit then
        let next := significand * 10 + (digit.toNat - 48)
        if greatestWord < next then (significand, taken, digit :: rest)
        else collect next (taken + 1) rest
      else (significand, taken, digit :: rest)

def skipDigits (text : List Char) : Nat × List Char :=
  ((text.takeWhile Char.isDigit).length, text.dropWhile Char.isDigit)

def exponentLimit : Int := 0x7FFFFFFF

def finishExponent (negative : Bool) (significand : Nat) (exponent : Int) (text : List Char) :
    Option (JsonNumber × List Char) := do
  let (downwards, text) :=
    match text with
    | '+' :: rest => (false, rest)
    | '-' :: rest => (true, rest)
    | rest => (false, rest)
  let digits := text.takeWhile Char.isDigit
  let rest := text.dropWhile Char.isDigit
  guard (!digits.isEmpty)
  let magnitude : Int := digits.foldl (fun value digit => value * 10 + (digit.toNat - 48 : Nat)) 0
  let value ←
    if exponentLimit < magnitude then
      if significand != 0 && !downwards then none
      else some (if negative then -0.0 else 0.0)
    else
      let total := if downwards then exponent - magnitude else exponent + magnitude
      scale negative significand total
  return (.double value, rest)

def finishFraction (negative : Bool) (significand : Nat) (exponent : Int) :
    List Char → Option (JsonNumber × List Char)
  | 'e' :: rest => finishExponent negative significand exponent rest
  | 'E' :: rest => finishExponent negative significand exponent rest
  | rest => do
      let value ← scale negative significand exponent
      return (.double value, rest)

/-- What follows the integer part; `dropped` of its digits did not fit. -/
def finishInteger (negative : Bool) (significand dropped : Nat) :
    List Char → Option (JsonNumber × List Char)
  | '.' :: rest => do
      guard (0 < (skipDigits rest).1)
      let (significand, taken, rest) := collect significand 0 rest
      let rest := (skipDigits rest).2
      finishFraction negative significand ((dropped : Int) - taken) rest
  | 'e' :: rest => finishExponent negative significand dropped rest
  | 'E' :: rest => finishExponent negative significand dropped rest
  | rest =>
      if 0 < dropped then finishFraction negative significand dropped rest
      else if !negative then some (.integer significand, rest)
      else if significand == 0 || 0x8000000000000000 < significand then
        some (.double (-(Float.ofNat significand)), rest)
      else some (.integer (-(significand : Int)), rest)

def read (text : List Char) : Option (JsonNumber × List Char) :=
  let (negative, text) :=
    match text with
    | '-' :: rest => (true, rest)
    | rest => (false, rest)
  match text with
  | '0' :: rest =>
      match rest with
      | digit :: _ => if digit.isDigit then none else finishInteger negative 0 0 rest
      | [] => finishInteger negative 0 0 []
  | digit :: _ =>
      if digit.isDigit then
        let (significand, _, rest) := collect 0 0 text
        let (dropped, rest) := skipDigits rest
        finishInteger negative significand dropped rest
      else none
  | [] => none

end ServiceStub.JsonNumber
