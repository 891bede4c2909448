import ServiceStub.Stub.Store

namespace ServiceStub

variable {S Input R : Type} [Stub S Input] [Scalar R]

namespace Specificity

def precedes (left right : Specificity) : Bool :=
  right.urlRank < left.urlRank ||
    (left.urlRank == right.urlRank && right.predicates ≤ left.predicates)

end Specificity

/-- Whether a stub is preferred to another, or the same: by priority, then by specificity, then
by registration. -/
def StubEntry.precedes (left right : StubEntry S) : Bool :=
  let leftPriority := Stub.priority left.stub
  let rightPriority := Stub.priority right.stub
  let leftSpecificity := Stub.specificity left.stub
  let rightSpecificity := Stub.specificity right.stub
  leftPriority < rightPriority ||
    (leftPriority == rightPriority &&
      if leftSpecificity == rightSpecificity then left.seq ≤ right.seq
      else leftSpecificity.precedes rightSpecificity)

structure Candidate (S R : Type) where
  entry : StubEntry S
  report : MatchReport R

structure Resolution (S R : Type) where
  stub : S
  report : MatchReport R
  transition : Option Transition

namespace StubStore

/-- The stubs that may answer an input in the present states of the scenarios. -/
def candidates (now : Calendar.Instant) (store : StubStore S) (scenarios : Scenarios)
    (input : Input) : List (Candidate S R) :=
  (store.entries.filter fun entry => scenarios.permits (Stub.scenario entry.stub)).filterMap
    fun entry =>
      let report := Stub.evaluate now entry.stub input
      if report.isExact then some { entry, report } else none

/-- The stubs that match an input exactly, whatever the states of the scenarios are. -/
def allMatching (R : Type) [Scalar R] (now : Calendar.Instant) (store : StubStore S)
    (input : Input) : List S :=
  store.toList.filter fun stub => (Stub.evaluate now stub input : MatchReport R).isExact

/-- Choose the most preferred candidate, and make its move in its scenario. -/
def resolve (now : Calendar.Instant) (store : StubStore S) (scenarios : Scenarios)
    (input : Input) : Option (Resolution S R) × Scenarios :=
  let candidates := (store.candidates now scenarios input).mergeSort
    fun left right => left.entry.precedes right.entry
  let (claimed, scenarios) :=
    scenarios.claimFirst (fun candidate : Candidate S R => Stub.scenario candidate.entry.stub)
      candidates
  (claimed.map fun (candidate, transition) =>
      { stub := candidate.entry.stub, report := candidate.report, transition },
    scenarios)

end StubStore

end ServiceStub
