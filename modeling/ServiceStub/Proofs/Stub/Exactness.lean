import ServiceStub.Proofs.Pattern.Request
import ServiceStub.Stub.Message

namespace ServiceStub

open MatchResult (Decides)

open FieldMatch (Decide)

namespace MessageStub

theorem decide_channelRows (now : Calendar.Instant) (stub : MessageStub)
    (message : ChannelMessage) :
    Decide (channelRows now stub message)
      (∀ pattern ∈ stub.channelPattern, pattern.Satisfies now message.channel.request) := by
  rw [channelRows]
  cases stub.channelPattern with
  | none => exact Decide.nil.congr (by simp)
  | some pattern =>
      have rows := pattern.decide_rows now message.channel.request
      refine ⟨?_, ?_, ?_⟩
      · exact List.forall_mem_map.mpr rows.weight_pos
      · exact List.forall_mem_map.mpr rows.inRange
      · rw [List.forall_mem_map]
        simpa using rows.isExact_iff

theorem decide_bodyRows (now : Calendar.Instant) (stub : MessageStub) (message : ChannelMessage) :
    Decide (bodyRows now stub message)
      (∀ pattern ∈ stub.bodyPattern, pattern.SatisfiesBytes now (some message.body)) :=
  .option (fun _ => by norm_num) fun pattern => pattern.decides_evaluateBytes now _

theorem decides_evaluate (now : Calendar.Instant) (stub : MessageStub)
    (message : ChannelMessage) :
    (Stub.evaluate now stub message : MatchReport Rat).result.Decides
      ((∀ pattern ∈ stub.channelPattern, pattern.Satisfies now message.channel.request) ∧
        ∀ pattern ∈ stub.bodyPattern, pattern.SatisfiesBytes now (some message.body)) :=
  ((decide_channelRows now stub message).append (decide_bodyRows now stub message)).report

end MessageStub

/-- Distances lie between zero and one.  A pattern matches the requests that satisfy it, so that
one without predicates matches all of them, and a message stub matches the messages whose channel
was opened by a request that its pattern matches and whose body satisfies its pattern. -/
theorem isExact_evaluate_iff_satisfies (now : Calendar.Instant) :
    (∀ (pattern : RequestPattern) (request : Http.Request),
      let report : MatchReport Rat := pattern.evaluate now request
      0 ≤ report.distance ∧ report.distance ≤ 1 ∧
        (report.isExact ↔ pattern.Satisfies now request)) ∧
    (∀ request, (RequestPattern.any.evaluate now request : MatchReport Rat).isExact) ∧
    ∀ (stub : MessageStub) (message : ChannelMessage),
      let report : MatchReport Rat := Stub.evaluate now stub message
      0 ≤ report.distance ∧ report.distance ≤ 1 ∧
        (report.isExact ↔
          (∀ pattern ∈ stub.channelPattern,
            (pattern.evaluate now message.channel.request : MatchReport Rat).isExact) ∧
          ∀ pattern ∈ stub.bodyPattern, pattern.SatisfiesBytes now (some message.body)) := by
  refine ⟨fun pattern request => ?_, fun request => ?_, fun stub message => ?_⟩
  · have decides := pattern.decides_evaluate now request
    exact ⟨decides.nonneg, decides.le_one, decides.isExact_iff⟩
  · refine (RequestPattern.any.decides_evaluate now request).isExact_iff.mpr ?_
    constructor <;> simp [RequestPattern.any, UrlPattern.Selects]
  · have decides := stub.decides_evaluate now message
    refine ⟨decides.nonneg, decides.le_one, decides.isExact_iff.trans (and_congr_left' ?_)⟩
    exact forall₂_congr fun pattern _ =>
      ((pattern.decides_evaluate now message.channel.request).isExact_iff).symm

end ServiceStub
