/-! Binary floating point numbers as exact values: a whole significand times a power of two. -/

namespace ServiceStub.Decimal

structure BinaryFormat where
  precision : Nat
  leastExponent : Int

namespace BinaryFormat

def double : BinaryFormat := ⟨53, -1074⟩

def single : BinaryFormat := ⟨24, -149⟩

end BinaryFormat

/-- The finite value `± significand · 2 ^ exponent`. -/
structure Binary where
  negative : Bool
  significand : Nat
  exponent : Int
  deriving Repr, DecidableEq

namespace Binary

def ofFields (format : BinaryFormat) (exponentBits : Nat) (word : Nat) : Binary :=
  let fractionBits := format.precision - 1
  let fraction := word % Nat.pow 2 fractionBits
  let exponentField := word / Nat.pow 2 fractionBits % Nat.pow 2 exponentBits
  let negative := word / Nat.pow 2 (fractionBits + exponentBits) % 2 == 1
  if exponentField == 0 then ⟨negative, fraction, format.leastExponent⟩
  else
    ⟨negative, Nat.pow 2 fractionBits + fraction, format.leastExponent + (exponentField - 1 : Nat)⟩

def ofFloat (value : Float) : Binary := ofFields .double 11 value.toBits.toNat

def ofFloat32 (value : Float32) : Binary := ofFields .single 8 value.toBits.toNat

def magnitude (value : Binary) : Nat × Nat :=
  if 0 ≤ value.exponent then (value.significand * Nat.pow 2 value.exponent.toNat, 1)
  else (value.significand, Nat.pow 2 (-value.exponent).toNat)

def isWhole (value : Binary) : Bool :=
  let (numerator, denominator) := value.magnitude
  numerator % denominator == 0

end Binary

end ServiceStub.Decimal
