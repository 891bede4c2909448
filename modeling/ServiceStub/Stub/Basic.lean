import ServiceStub.FieldMatch
import ServiceStub.Scenario
import ServiceStub.Calendar.Instant

namespace ServiceStub

/-- How constrained a stub is: the rank of its URL pattern first, then the number of its
predicates. -/
structure Specificity where
  urlRank : Nat
  predicates : Nat
  deriving Repr, DecidableEq

/-- What answers an input that matches it exactly.  Smaller priorities win. -/
class Stub (S : Type) (Input : outParam Type) where
  id : S → Uuid
  name : S → Option String
  priority : S → Int
  specificity : S → Specificity
  scenario : S → Option ScenarioSpec
  evaluate {R : Type} [Scalar R] (now : Calendar.Instant) (stub : S) (input : Input) :
    MatchReport R

def Stub.defaultPriority : Int := 5

end ServiceStub
