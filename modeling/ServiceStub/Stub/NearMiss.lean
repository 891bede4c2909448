import ServiceStub.Stub.Store

namespace ServiceStub

variable {S Input R : Type} [Stub S Input] [Scalar R]

structure NearMiss (α R : Type) where
  subject : α
  report : MatchReport R

namespace NearMiss

def defaultLimit : Nat := 3

/-- The nearest subjects, nearest first; of equally near ones the earlier comes first. -/
def rank {α : Type} (limit : Nat) (misses : List (NearMiss α R)) : List (NearMiss α R) :=
  (misses.mergeSort fun left right =>
    Scalar.le left.report.distance right.report.distance).take limit

end NearMiss

def ScenarioSpec.row (spec : ScenarioSpec) (required current : String) : FieldMatch R :=
  { field := "scenario", operator := "equalTo", expected := spec.name ++ ": " ++ required,
    actual := some (spec.name ++ ": " ++ current), result := .of (spec.permits current),
    weight := Scalar.one }

def Stub.reportIn (now : Calendar.Instant) (scenarios : Scenarios) (stub : S) (input : Input) :
    MatchReport R :=
  let report := Stub.evaluate now stub input
  match Stub.scenario stub with
  | none => report
  | some spec =>
      match spec.requiredState with
      | none => report
      | some required => report.add (spec.row required (scenarios.stateOf spec.name))

/-- The stubs nearest to an input, whether or not their scenarios permit them. -/
def StubStore.nearMisses (now : Calendar.Instant) (limit : Nat) (store : StubStore S)
    (scenarios : Scenarios) (input : Input) : List (NearMiss S R) :=
  NearMiss.rank limit <|
    store.toList.map fun stub =>
      { subject := stub, report := Stub.reportIn now scenarios stub input }

end ServiceStub
