/-!
The arithmetic distances are computed with.  A server runs on doubles; a statement about
distances is read on exact rationals, where every operation is the mathematical one.
-/

namespace ServiceStub

/-- Numbers that distances and weights are made of. -/
class Scalar (R : Type) extends Add R, Sub R, Mul R, Div R where
  ofNat : Nat → R
  isFinite : R → Bool
  lt : R → R → Bool
  eq : R → R → Bool

namespace Scalar

variable {R : Type} [Scalar R]

instance : Scalar Float where
  ofNat := Float.ofNat
  isFinite := Float.isFinite
  lt left right := left < right
  eq left right := left == right

instance : Scalar Rat where
  ofNat count := (count : Rat)
  isFinite _ := true
  lt left right := left < right
  eq left right := left == right

def zero : R := ofNat 0

def one : R := ofNat 1

def le (left right : R) : Bool := lt left right || eq left right

def max (left right : R) : R := if lt left right then right else left

def min (left right : R) : R := if lt right left then right else left

def ratio (numerator denominator : Nat) : R := ofNat numerator / ofNat denominator

def clamp (value : R) : R :=
  if lt value zero then zero else if lt one value then one else value

end Scalar

end ServiceStub
