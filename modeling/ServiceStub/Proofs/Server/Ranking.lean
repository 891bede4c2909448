import ServiceStub.Proofs.Stub.NearMiss
import ServiceStub.Server.State

namespace ServiceStub.ServerState

variable {R : Type} [Scalar R] [OrderedScalar R]

private theorem exists_ranking_log (now : Calendar.Instant) (state : ServerState)
    (pattern : RequestPattern) :
    ∃ listed omitted,
      Ranking state.nearMissLimit
        (fun logged => (pattern.evaluate now logged.1.request : MatchReport R).distance)
        (fun first second => first.2 < second.2) state.requests.entries.zipIdx listed omitted ∧
      state.nearMissesForPattern now pattern = listed.map fun logged =>
        (⟨logged.1.request, pattern.evaluate now logged.1.request⟩ :
          NearMiss Http.Request R) := by
  obtain ⟨listed, omitted, ranking, misses⟩ :=
    NearMiss.exists_ranking state.nearMissLimit (pairwise_zipIdx state.requests.entries)
      fun logged => (⟨logged.1.request, pattern.evaluate now logged.1.request⟩ :
        NearMiss Http.Request R)
  refine ⟨listed, omitted, ranking, ?_⟩
  have entries := List.zipIdx_map_fst 0 state.requests.entries
  rw [← misses, nearMissesForPattern]
  nth_rewrite 1 [← entries]
  rw [List.map_map]
  rfl

/-- The near misses of an input are the stubs nearest to it, those of a pattern the logged requests
nearest to it: nearer ones first, level ones in the order they came in, and nothing left out that
would come before what is listed.  As far as distances are exact, each is the mean of its rows. -/
theorem nearMisses_nearest_first (R : Type) [Scalar R] [OrderedScalar R]
    (now : Calendar.Instant) :
    (∀ (S Input : Type) [Stub S Input] (limit : Nat) (history : List (StoreOperation S))
      (scenarios : Scenarios) (input : Input),
      StubStore.ListsNearest now limit history scenarios input
        ((StubStore.run history).nearMisses now limit scenarios input : List (NearMiss S R))) ∧
    (∀ (state : ServerState) (pattern : RequestPattern), ∃ listed omitted,
      Ranking state.nearMissLimit
        (fun logged => (pattern.evaluate now logged.1.request : MatchReport R).distance)
        (fun first second => first.2 < second.2) state.requests.entries.zipIdx listed omitted ∧
      state.nearMissesForPattern now pattern = listed.map fun logged =>
        (⟨logged.1.request, pattern.evaluate now logged.1.request⟩ :
          NearMiss Http.Request R)) ∧
    (∀ (scenarios : Scenarios) (stub : HttpStub) (request : Http.Request),
      let report : MatchReport Rat := Stub.reportIn now scenarios stub request
      report.distance = report.mean) ∧
    (∀ (scenarios : Scenarios) (stub : MessageStub) (message : ChannelMessage),
      let report : MatchReport Rat := Stub.reportIn now scenarios stub message
      report.distance = report.mean) ∧
    ∀ (pattern : RequestPattern) (request : Http.Request),
      let report : MatchReport Rat := pattern.evaluate now request
      report.distance = report.mean :=
  ⟨fun _ _ _ limit history scenarios input =>
      StubStore.listsNearest_nearMisses now limit history scenarios input,
    fun state pattern => exists_ranking_log now state pattern,
    fun scenarios stub request => (decide_reportIn now scenarios stub request).distance_eq_mean,
    fun scenarios stub message => (decide_reportIn now scenarios stub message).distance_eq_mean,
    fun pattern request => (pattern.decide_rows now request).distance_eq_mean⟩

example :
    let spec : ScenarioSpec := { name := "flow", requiredState := some "Done" }
    let store := StubStore.run (S := HttpStub)
      [.add { id := ⟨1⟩, scenario := some spec }, .add { id := ⟨2⟩, scenario := some spec },
        .add { id := ⟨3⟩ }]
    (store.nearMisses ⟨0, 0⟩ 2 {} { method := "GET", url := "/" } :
      List (NearMiss HttpStub Rat)).map (fun miss => miss.subject.id) = [⟨3⟩, ⟨1⟩] := by
  cbv

end ServiceStub.ServerState
