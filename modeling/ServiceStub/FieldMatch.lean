import ServiceStub.MatchResult
import ServiceStub.TextDiff

namespace ServiceStub

structure FieldMatch (R : Type) where
  field : String
  operator : String
  expected : String
  actual : Option String
  result : MatchResult R
  weight : R

namespace FieldMatch

variable {R : Type} [Scalar R]

/-- The difference between the expected and the actual text of a field that does not match, by
lines if either has several. -/
def diff (row : FieldMatch R) : Option TextDiff :=
  match row.actual with
  | none => none
  | some actual =>
      if row.result.isExact then none
      else
        let several := row.expected.contains '\n' || actual.contains '\n'
        some (TextDiff.ofTexts (if several then .line else .character) row.expected actual)

end FieldMatch

structure MatchReport (R : Type) where
  rows : List (FieldMatch R)

namespace MatchReport

variable {R : Type} [Scalar R]

/-- The weighted mean of all fields, which is exact only if every field is. -/
def result (report : MatchReport R) : MatchResult R :=
  .weightedMean (report.rows.map fun row => (row.result, row.weight))

def distance (report : MatchReport R) : R := report.result.distance

def isExact (report : MatchReport R) : Bool := report.result.isExact

def add (report : MatchReport R) (row : FieldMatch R) : MatchReport R :=
  ⟨report.rows ++ [row]⟩

end MatchReport

end ServiceStub
