import ServiceStub.Scalar

namespace ServiceStub

/-- The outcome of evaluating a pattern: a distance between zero and one, where zero is an
exact match and one means no similarity at all. -/
structure MatchResult (R : Type) where
  distance : R
  deriving Repr

namespace MatchResult

variable {R : Type} [Scalar R]

/-- The smallest distance of a value that does not match, so that zero is left to exact
matches even where a graded metric rounds to zero. -/
def smallestMismatch : R := Scalar.ratio 1 1000

def exact : MatchResult R := ⟨Scalar.zero⟩

def noMatch : MatchResult R := ⟨Scalar.one⟩

def of (holds : Bool) : MatchResult R := if holds then exact else noMatch

def isExact (result : MatchResult R) : Bool := Scalar.eq result.distance Scalar.zero

/-- A graded result.  A distance that is no number counts as no match. -/
def graded (distance : R) : MatchResult R :=
  if Scalar.isFinite distance then ⟨Scalar.clamp distance⟩ else noMatch

def mismatch (distance : R) : MatchResult R :=
  if Scalar.isFinite distance then graded (Scalar.max distance smallestMismatch)
  else noMatch

/-- Every result must match: the largest distance decides, and nothing at all matches. -/
def all : List (MatchResult R) → MatchResult R
  | [] => exact
  | first :: rest =>
      graded (rest.foldl (fun distance result => Scalar.max distance result.distance)
        first.distance)

/-- Any result may match: the smallest distance decides, and nothing at all is no match. -/
def any : List (MatchResult R) → MatchResult R
  | [] => noMatch
  | first :: rest =>
      graded (rest.foldl (fun distance result => Scalar.min distance result.distance)
        first.distance)

/-- The weighted arithmetic mean; an exact match if the weights sum to nothing. -/
def weightedMean (results : List (MatchResult R × R)) : MatchResult R :=
  let totals := results.foldl
    (fun (sum, weight) entry => (sum + entry.1.distance * entry.2, weight + entry.2))
    (Scalar.zero, Scalar.zero)
  if Scalar.le totals.2 Scalar.zero then exact else graded (totals.1 / totals.2)

def mean (results : List (MatchResult R)) : MatchResult R :=
  weightedMean (results.map fun result => (result, Scalar.one))

end MatchResult

end ServiceStub
