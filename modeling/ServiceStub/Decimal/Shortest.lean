import ServiceStub.Decimal.Binary

/-!
The decimal of fewest digits that reads back as a given binary number, the nearest one among
those, and of two equally near ones the one with the even last digit.
-/

namespace ServiceStub.Decimal

/-- The value `digits · 10 ^ exponent`. -/
structure Scaled where
  digits : Nat
  exponent : Int
  deriving Repr, DecidableEq

namespace Scaled

def stripZeros (bound : Nat) (value : Scaled) : Scaled :=
  match bound with
  | 0 => value
  | bound + 1 =>
      if value.digits % 10 == 0 && value.digits != 0 then
        stripZeros bound ⟨value.digits / 10, value.exponent + 1⟩
      else value

end Scaled

/-- The reals between `low` and `high`, over `denominator`, that read back as `middle`. -/
structure Rounding where
  low : Nat
  middle : Nat
  high : Nat
  denominator : Nat
  closed : Bool

namespace Rounding

def ofBinary (format : BinaryFormat) (value : Binary) : Rounding :=
  let isBoundary :=
    value.significand == Nat.pow 2 (format.precision - 1) && format.leastExponent < value.exponent
  let scale := if 2 ≤ value.exponent then Nat.pow 2 (value.exponent - 2).toNat else 1
  let denominator := if 2 ≤ value.exponent then 1 else Nat.pow 2 (2 - value.exponent).toNat
  { low := (4 * value.significand - if isBoundary then 1 else 2) * scale
    middle := 4 * value.significand * scale
    high := (4 * value.significand + 2) * scale
    denominator := denominator
    closed := value.significand % 2 == 0 }

def inUnits (rounding : Rounding) (exponent : Int) : Rounding :=
  if 0 ≤ exponent then
    { rounding with denominator := rounding.denominator * Nat.pow 10 exponent.toNat }
  else
    let scale := Nat.pow 10 (-exponent).toNat
    { rounding with
      low := rounding.low * scale
      middle := rounding.middle * scale
      high := rounding.high * scale }

def holds (rounding : Rounding) (candidate : Nat) : Bool :=
  let point := candidate * rounding.denominator
  if rounding.closed then rounding.low ≤ point && point ≤ rounding.high
  else rounding.low < point && point < rounding.high

/-- The multiple of the unit in the interval that is nearest to the middle, if there is one. -/
def nearest? (rounding : Rounding) : Option Nat :=
  let below := rounding.middle / rounding.denominator
  match rounding.holds below, rounding.holds (below + 1) with
  | true, false => some below
  | false, true => some (below + 1)
  | false, false => none
  | true, true =>
      let doubled := 2 * rounding.middle
      let half := (2 * below + 1) * rounding.denominator
      if doubled < half then some below
      else if half < doubled then some (below + 1)
      else some (if below % 2 == 0 then below else below + 1)

/-- The number of decimal places before the point, zero or negative below one tenth. -/
def places (rounding : Rounding) (bound : Nat) : Int :=
  if rounding.denominator ≤ rounding.middle then
    ((Nat.toDigits 10 (rounding.middle / rounding.denominator)).length : Int)
  else
    let rec leading (bound : Nat) (numerator : Nat) : Int :=
      match bound with
      | 0 => 0
      | bound + 1 =>
          if rounding.denominator ≤ numerator * 10 then 0
          else leading bound (numerator * 10) - 1
    leading bound rounding.middle

def search (rounding : Rounding) (places : Int) : (remaining digits : Nat) → Option Scaled
  | 0, _ => none
  | remaining + 1, digits =>
      let exponent := places - digits
      match (rounding.inUnits exponent).nearest? with
      | some candidate => some ⟨candidate, exponent⟩
      | none => search rounding places remaining (digits + 1)

end Rounding

def shortest (format : BinaryFormat) (value : Binary) : Scaled :=
  if value.significand == 0 then ⟨0, 0⟩
  else
    let rounding := Rounding.ofBinary format value
    match rounding.search (rounding.places 400) 25 1 with
    | some found => found.stripZeros 400
    | none => ⟨0, 0⟩

end ServiceStub.Decimal
