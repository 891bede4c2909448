import ServiceStub.Report.Json
import ServiceStub.Server.State

/-! Short documents of values, with what it takes to tell them apart. -/

namespace ServiceStub

class Summary (α : Type) where
  summary : α → Json

export Summary (summary)

section

variable {α β : Type} [Summary α] [Summary β]

instance : Summary Json := ⟨id⟩
instance : Summary String := ⟨.string⟩
instance : Summary Bool := ⟨.bool⟩
instance : Summary Nat := ⟨.ofNat⟩
instance : Summary Int := ⟨.ofInt⟩
instance : Summary Float := ⟨.ofFloat⟩
instance : Summary Uuid := ⟨fun id => .string id.toString⟩
instance : Summary (Option α) := ⟨Json.ofOption summary⟩
instance : Summary (List α) := ⟨fun items => .array (items.map summary)⟩
instance : Summary (α × β) := ⟨fun (first, second) => .array [summary first, summary second]⟩

def Json.entry (name : String) (value : α) : String × Json := (name, summary value)

end

def Json.ofEntries (entries : List (String × Json)) : Json := .object (Assoc.ofList entries)

open Json (entry ofEntries)

/-- Bytes are shown as text if they are one. -/
def Text.bytesJson (bytes : Bytes) : Json :=
  match ofBytes? bytes with
  | some text => .string text
  | none => ofEntries [entry "base64" (Base64.encode bytes)]

instance : Summary Calendar.Instant where
  summary moment := summary (moment.seconds, moment.nanoseconds)

def MatchResult.entries (result : MatchResult Float) : List (String × Json) :=
  [entry "distance" result.distance, entry "exact" result.isExact]

instance : Summary (MatchResult Float) := ⟨fun result => ofEntries result.entries⟩

def MatchReport.fieldsEntry (differences : Bool) (report : MatchReport Float) : String × Json :=
  entry "fields" <| report.rows.map fun row =>
    row.toJson (if differences then row.diff.map (TextDiff.toJson .widened) else none)

def MatchReport.summary (differences : Bool) (report : MatchReport Float) : Json :=
  ofEntries <| report.result.entries ++
    [entry "weights" (report.rows.map FieldMatch.weight), report.fieldsEntry differences]

def NearMiss.summary {α : Type} [Summary α] (subject : String) (differences : Bool)
    (nearMiss : NearMiss α Float) : Json :=
  ofEntries
    [entry subject nearMiss.subject, entry "distance" nearMiss.report.distance,
      nearMiss.report.fieldsEntry differences]

def NearMiss.listEntry {α : Type} [Summary α] (differences : Bool)
    (nearMisses : List (NearMiss α Float)) : String × Json :=
  entry "nearMisses" (nearMisses.map (NearMiss.summary "stub" differences))

instance : Summary HttpStub where
  summary stub := ofEntries [entry "id" stub.id, entry "name" stub.name]

instance : Summary MessageStub where
  summary stub := ofEntries [entry "id" stub.id, entry "name" stub.name]

instance : Summary (StubEntry HttpStub) where
  summary stored := ofEntries [entry "seq" stored.seq, entry "stub" stored.stub]

instance : Summary Scenario := ⟨Scenario.toJson⟩

instance : Summary ScenarioSpec := ⟨ScenarioSpec.toJson⟩

instance : Summary Transition where
  summary transition :=
    ofEntries
      [entry "scenario" transition.scenario, entry "from" transition.before,
        entry "to" transition.after]

instance : Summary Http.Request := ⟨fun request => .string request.summary⟩

instance : Summary Http.Part where
  summary part :=
    ofEntries
      [entry "name" part.name, entry "headers" part.headers,
        entry "body" (Text.bytesJson part.body)]

instance : Summary SubEvent := ⟨SubEvent.toJson⟩

def ServeEvent.entries (event : ServeEvent) : List (String × Json) :=
  [entry "request" event.request, entry "stub" event.stub, entry "matched" event.wasMatched,
    entry "status" (event.response.map Http.ResponseDefinition.status),
    entry "subEvents" event.subEvents]

instance : Summary ServeEvent := ⟨fun event => ofEntries event.entries⟩

def ServeOutcome.summary (differences : Bool) : ServeOutcome Float → Json
  | .matched stub transition event =>
      ofEntries (event.entries ++ [entry "name" stub.name, entry "transition" transition])
  | .unmatched nearMisses event =>
      ofEntries (event.entries ++ [NearMiss.listEntry differences nearMisses])

def UnmatchedRequest.summary (differences : Bool) (unmatched : UnmatchedRequest Float) : Json :=
  ofEntries
    [entry "request" unmatched.request, NearMiss.listEntry differences unmatched.nearMisses]

instance : Summary Channel where
  summary channel := ofEntries [entry "id" channel.id, entry "request" channel.request]

instance : Summary Delivery := ⟨Delivery.toJson⟩

def MessageEvent.entries (event : MessageEvent) : List (String × Json) :=
  [entry "channel" event.channel, entry "body" event.body, entry "stub" event.stub,
    entry "matched" event.wasMatched, entry "deliveries" event.deliveries,
    entry "subEvents" event.subEvents]

instance : Summary MessageEvent := ⟨fun event => ofEntries event.entries⟩

def MessageOutcome.summary (differences : Bool) : MessageOutcome Float → Json
  | .matched stub deliveries transition event =>
      ofEntries <| event.entries ++
        [entry "name" stub.name, entry "transition" transition, entry "sent" deliveries]
  | .unmatched nearMisses event =>
      ofEntries (event.entries ++ [NearMiss.listEntry differences nearMisses])

instance : Summary Notification where
  summary
    | .stubMatched event stub => .array [.string "stubMatched", summary event.request, summary stub]
    | .requestUnmatched event => summary ("requestUnmatched", event.request)
    | .messageMatched event stub =>
        .array [.string "messageMatched", .string event.body, summary stub]
    | .messageUnmatched event => summary ("messageUnmatched", event.body)

end ServiceStub
