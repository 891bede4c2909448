import ServiceStub.Proofs.Server.Operation
import ServiceStub.Proofs.Stub.NearMiss

/-! What the near misses that a server reports tell about its choices and about its log. -/

namespace ServiceStub.ServerState

open NearMiss (atZero)

variable {state after : ServerState} {now : Calendar.Instant}

private theorem not_exact_of_serve {request : Http.Request}
    {nearMisses : List (NearMiss HttpStub Rat)} {event : ServeEvent}
    (unmatched : (state.serve now request : ServeOutcome Rat × ServerState).1 =
      .unmatched nearMisses event) :
    ∀ miss ∈ nearMisses,
      0 < miss.report.distance ∧ ∃ row ∈ miss.report.rows, row.result.isExact = false := by
  intro miss member
  rw [serve] at unmatched
  split at unmatched
  · simp at unmatched
  · next nobody =>
      obtain ⟨rfl, -⟩ := ServeOutcome.unmatched.inj unmatched
      exact StubStore.not_exact_of_unmatched (congrArg Prod.fst nobody) member

private theorem not_exact_of_receiveMessage {channel : Uuid} {body : Bytes}
    {nearMisses : List (NearMiss MessageStub Rat)} {event : MessageEvent}
    (unmatched : state.receiveMessage now channel body =
      .ok ((.unmatched nearMisses event : MessageOutcome Rat), after)) :
    ∀ miss ∈ nearMisses,
      0 < miss.report.distance ∧ ∃ row ∈ miss.report.rows, row.result.isExact = false := by
  intro miss member
  simp only [receiveMessage] at unmatched
  split at unmatched
  · simp at unmatched
  · split at unmatched
    · simp at unmatched
    · next nobody =>
        obtain ⟨rfl, -⟩ := MessageOutcome.unmatched.inj (Prod.mk.inj (Except.ok.inj unmatched)).1
        exact StubStore.not_exact_of_unmatched (congrArg Prod.fst nobody) member

private theorem serve_unmatched {request : Http.Request}
    (nobody : (state.stubs.resolve now state.scenarios request :
      Option (Resolution HttpStub Rat) × Scenarios).1 = none) :
    ∃ event, (state.serve now request : ServeOutcome Rat × ServerState).1 =
      .unmatched (state.nearMissesForRequest now request) event := by
  rw [serve]
  split
  · next chosen => simp [chosen] at nobody
  · exact ⟨_, rfl⟩

private theorem receiveMessage_unmatched {id : Uuid} {channel : Channel} {body : Bytes}
    (opened : state.channels.find? id = some channel)
    (nobody : (state.messageStubs.resolve now state.scenarios { channel, body } :
      Option (Resolution MessageStub Rat) × Scenarios).1 = none) :
    ∃ nearMisses event after, state.receiveMessage now id body =
      .ok ((.unmatched nearMisses event : MessageOutcome Rat), after) := by
  simp only [receiveMessage, opened]
  split
  · next chosen => simp [chosen] at nobody
  · exact ⟨_, _, _, rfl⟩

private theorem filter_nearMissesForPattern (now : Calendar.Instant) (state : ServerState)
    (pattern : RequestPattern) :
    ((state.nearMissesForPattern now pattern).filter atZero).map NearMiss.subject =
      ((state.findRequests Rat now pattern).map ServeEvent.request).take state.nearMissLimit := by
  rw [nearMissesForPattern, NearMiss.filter_rank, findRequests, List.filter_map, List.map_take,
    List.map_map]
  · rfl
  · refine List.forall_mem_map.mpr fun event _ => ?_
    exact (pattern.decides_evaluate now event.request).nonneg

/-- With room for all stubs the near misses at distance zero are the stubs that may be chosen, so
the first of them is at distance zero just if one is chosen.  When nothing is chosen all of them
are apart from the input, and a row says where.  The near misses of a pattern at distance zero are
the logged requests that match it, oldest first, as many as there is room for. -/
theorem nearMisses_tell_choices (now : Calendar.Instant) :
    (∀ (store : StubStore HttpStub) (scenarios : Scenarios) (request : Http.Request)
      (limit : Nat), store.size ≤ limit →
        store.ToldBy now scenarios request (store.nearMisses now limit scenarios request)) ∧
    (∀ (store : StubStore MessageStub) (scenarios : Scenarios) (message : ChannelMessage)
      (limit : Nat), store.size ≤ limit →
        store.ToldBy now scenarios message (store.nearMisses now limit scenarios message)) ∧
    (∀ (state : ServerState) (request : Http.Request) (nearMisses : List (NearMiss HttpStub Rat))
      (event : ServeEvent),
      (state.serve now request : ServeOutcome Rat × ServerState).1 = .unmatched nearMisses event →
        ∀ miss ∈ nearMisses,
          0 < miss.report.distance ∧ ∃ row ∈ miss.report.rows, row.result.isExact = false) ∧
    (∀ (state after : ServerState) (channel : Uuid) (body : Bytes)
      (nearMisses : List (NearMiss MessageStub Rat)) (event : MessageEvent),
      state.receiveMessage now channel body =
          .ok ((.unmatched nearMisses event : MessageOutcome Rat), after) →
        ∀ miss ∈ nearMisses,
          0 < miss.report.distance ∧ ∃ row ∈ miss.report.rows, row.result.isExact = false) ∧
    ∀ (state : ServerState) (pattern : RequestPattern),
      ((state.nearMissesForPattern now pattern).filter atZero).map NearMiss.subject =
        ((state.findRequests Rat now pattern).map ServeEvent.request).take
          state.nearMissLimit :=
  ⟨fun _ _ _ _ room => StubStore.toldBy_nearMisses room,
    fun _ _ _ _ room => StubStore.toldBy_nearMisses room,
    fun _ _ _ _ unmatched => not_exact_of_serve unmatched,
    fun _ _ _ _ _ _ unmatched => not_exact_of_receiveMessage unmatched,
    fun state pattern => filter_nearMissesForPattern now state pattern⟩

theorem nearMisses_tell_choices_waiting :
    let now : Calendar.Instant := ⟨0, 0⟩
    let request : Http.Request := { method := "GET", url := "/" }
    let channel : Channel := { id := ⟨7⟩, request }
    let spec : ScenarioSpec := { name := "flow", requiredState := some "Done" }
    let state := (ofLimits none 3).run Rat
      [.http (.addStub { id := ⟨1⟩, scenario := some spec }),
        .addMessageStub { id := ⟨2⟩, scenario := some spec }, .openChannel channel]
    state.stubs.size ≤ 3 ∧ state.messageStubs.size ≤ 3 ∧
      state.stubs.ToldBy now state.scenarios request
        (state.stubs.nearMisses now 3 state.scenarios request) ∧
      state.messageStubs.ToldBy now state.scenarios { channel, body := [] }
        (state.messageStubs.nearMisses now 3 state.scenarios { channel, body := [] }) ∧
      (∃ nearMisses event, (state.serve now request : ServeOutcome Rat × ServerState).1 =
          .unmatched nearMisses event ∧ ∀ miss ∈ nearMisses, 0 < miss.report.distance) ∧
      ∃ nearMisses event after, state.receiveMessage now channel.id [] =
          .ok ((.unmatched nearMisses event : MessageOutcome Rat), after) ∧
        ∀ miss ∈ nearMisses, 0 < miss.report.distance := by
  intro now request channel spec state
  obtain ⟨http, message, served, received, -⟩ := nearMisses_tell_choices now
  have room : state.stubs.size ≤ 3 := by decide +kernel
  have messageRoom : state.messageStubs.size ≤ 3 := by decide +kernel
  refine ⟨room, messageRoom, http _ _ _ _ room, message _ _ _ _ messageRoom, ?_, ?_⟩
  · have nobody : (state.stubs.resolve now state.scenarios request :
        Option (Resolution HttpStub Rat) × Scenarios).1.isNone := by decide +kernel
    obtain ⟨event, unmatched⟩ := serve_unmatched (Option.isNone_iff_eq_none.mp nobody)
    exact ⟨_, event, unmatched, fun miss member => (served _ _ _ _ unmatched miss member).1⟩
  · have nobody : (state.messageStubs.resolve now state.scenarios { channel, body := [] } :
        Option (Resolution MessageStub Rat) × Scenarios).1.isNone := by decide +kernel
    have opened : state.channels.find? channel.id = some channel := rfl
    obtain ⟨nearMisses, event, after, unmatched⟩ :=
      receiveMessage_unmatched opened (Option.isNone_iff_eq_none.mp nobody)
    exact ⟨nearMisses, event, after, unmatched,
      fun miss member => (received _ _ _ _ _ _ unmatched miss member).1⟩

/-- A log may hold more requests that match a pattern than there is room for near misses. -/
theorem nearMissesForPattern_leaves_out :
    let request : Http.Request := { method := "GET", url := "/" }
    let now : Calendar.Instant := ⟨0, 0⟩
    let state := (ofLimits none 1).run Rat [.http (.serve now request), .http (.serve now request)]
    state.stubs.size ≤ state.nearMissLimit ∧
      ((state.nearMissesForPattern now .any).filter atZero).map NearMiss.subject ≠
        (state.findRequests Rat now .any).map ServeEvent.request := by
  intro request now state
  refine ⟨by decide +kernel, fun same => ?_⟩
  have found : (state.findRequests Rat now .any).length = 2 := by decide +kernel
  have sizes := congrArg List.length same
  rw [filter_nearMissesForPattern, List.length_take, List.length_map, found] at sizes
  exact absurd sizes (by decide +kernel)

end ServiceStub.ServerState
