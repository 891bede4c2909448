import ServiceStub.Channel
import ServiceStub.Stub.Http

namespace ServiceStub

structure ChannelMessage where
  channel : Channel
  body : Bytes
  deriving DecidableEq

def ChannelMessage.bodyText (message : ChannelMessage) : String := Text.ofBytesLossy message.body

/-- What a message stub does once it has matched: it answers on the channel of the message, or
sends to every open channel whose opening request matches a pattern. -/
inductive MessageAction where
  | reply (body : String)
  | broadcast (channels : RequestPattern) (body : String)

namespace MessageAction

/-- Read an action by its type.  The pattern of a broadcast has to be one that can be built. -/
def ofFields (type : String) (fields : Json) : Option MessageAction := do
  match type with
  | "send" =>
      let record ← Record.ofJson ["body"] fields
      return .reply (← record.required "body" Json.asString?)
  | "broadcast" =>
      let record ← Record.ofJson ["channels", "body"] fields
      let definition ← record.required "channels" RequestDefinition.ofJson
      let channels ← definition.compile.toOption
      return .broadcast channels (← record.required "body" Json.asString?)
  | _ => none

/-- Read an action; its type is a member beside its fields, or comes before them in a list. -/
def ofJson : Json → Option MessageAction
  | .object members =>
      match members.filter fun member => member.1 == "type" with
      | [(_, .string type)] =>
          ofFields type (.object (members.filter fun member => member.1 != "type"))
      | _ => none
  | .array (.string type :: fields) => ofFields type (.array fields)
  | _ => none

def toJson : MessageAction → Json
  | .reply body => Json.record [("type", some (.string "send")), ("body", some (.string body))]
  | .broadcast channels body =>
      Json.record
        [("type", some (.string "broadcast")), ("channels", some channels.toJson),
          ("body", some (.string body))]

end MessageAction

structure Delivery where
  channel : Uuid
  body : String
  deriving DecidableEq

namespace Delivery

def toJson (delivery : Delivery) : Json :=
  Json.record
    [("channelId", some (.string delivery.channel.toString)),
      ("body", some (.string delivery.body))]

def ofActions (R : Type) [Scalar R] (now : Calendar.Instant) (origin : Channel)
    (channels : Channels) (actions : List MessageAction) : List Delivery :=
  actions.flatMap fun
    | .reply body => [⟨origin.id, body⟩]
    | .broadcast pattern body =>
        (channels.matching R now pattern).map fun channel => ⟨channel.id, body⟩

end Delivery

/-- A stub that answers messages, chosen by the opening request of their channel and by their
body. -/
structure MessageStub where
  id : Uuid
  name : Option String := none
  priority : Option Int := none
  channelPattern : Option RequestPattern := none
  bodyPattern : Option Pattern := none
  actions : List MessageAction := []
  scenario : Option ScenarioSpec := none
  metadata : Option Json := none

namespace MessageStub

def specificity (stub : MessageStub) : Specificity :=
  { urlRank := (stub.channelPattern.map fun pattern => pattern.url.specificity).getD 0
    predicates :=
      (stub.channelPattern.map RequestPattern.predicateCount).getD 0 +
        (stub.bodyPattern.map Pattern.predicateCount).getD 0 }

variable {R : Type} [Scalar R]

def channelRows (now : Calendar.Instant) (stub : MessageStub) (message : ChannelMessage) :
    List (FieldMatch R) :=
  match stub.channelPattern with
  | none => []
  | some pattern =>
      (pattern.evaluate now message.channel.request).rows.map fun row =>
        { row with field := "channel." ++ row.field }

def bodyRows (now : Calendar.Instant) (stub : MessageStub) (message : ChannelMessage) :
    List (FieldMatch R) :=
  stub.bodyPattern.toList.map fun pattern =>
    { field := "message.body", operator := pattern.operator, expected := pattern.expected,
      actual := some message.bodyText, result := pattern.evaluateBytes now (some message.body),
      weight := Scalar.one }

instance : Stub MessageStub ChannelMessage where
  id := MessageStub.id
  name := MessageStub.name
  priority stub := stub.priority.getD Stub.defaultPriority
  specificity := MessageStub.specificity
  scenario := MessageStub.scenario
  evaluate now stub message := ⟨stub.channelRows now message ++ stub.bodyRows now message⟩

end MessageStub

structure MessageStubDefinition where
  id : Option Uuid := none
  name : Option String := none
  priority : Option Int := none
  channelPattern : Option RequestDefinition := none
  bodyPattern : Option PatternDefinition := none
  actions : List MessageAction := []
  scenario : ScenarioFields := {}
  metadata : Option Json := none

namespace MessageStubDefinition

def fieldNames : List String :=
  ["id", "name", "priority", "channelPattern", "bodyPattern", "actions"] ++
    ScenarioFields.fieldNames ++ ["metadata"]

def ofJson (document : Json) : Option MessageStubDefinition := do
  let record ← Record.ofJson fieldNames document
  return {
    id := ← record.optional "id" Json.asUuid?
    name := ← record.optional "name" Json.asString?
    priority := ← record.optional "priority" Json.asPriority?
    channelPattern := ← record.optional "channelPattern" RequestDefinition.ofJson
    bodyPattern := ← record.optional "bodyPattern" PatternDefinition.ofJson
    actions := ← record.withDefault "actions" [] (Json.listOf? MessageAction.ofJson)
    scenario := ← ScenarioFields.read record
    metadata := ← record.optional "metadata" fun metadata => some metadata.canonical }

def toJson (definition : MessageStubDefinition) : Json :=
  Json.record <|
    [("id", definition.id.map fun id => .string id.toString),
      ("name", definition.name.map .string),
      ("priority", definition.priority.map .ofInt),
      ("channelPattern", definition.channelPattern.map RequestDefinition.toJson),
      ("bodyPattern", definition.bodyPattern.map PatternDefinition.toJson),
      ("actions", some (.array (definition.actions.map MessageAction.toJson))),
      ("metadata", definition.metadata)] ++
    definition.scenario.members

def compileOptional {α β : Type} (field : String) (compile : α → Except PatternError β) :
    Option α → Except StateError (Option β)
  | none => .ok none
  | some definition => do
      return some (← StateError.ofPatternResult field (compile definition))

def compile (fresh : Uuid) (definition : MessageStubDefinition) :
    Except StateError MessageStub := do
  let channelPattern ←
    compileOptional "channelPattern" RequestDefinition.compile definition.channelPattern
  let bodyPattern ← compileOptional "bodyPattern" PatternDefinition.compile definition.bodyPattern
  let scenario ← definition.scenario.toSpec
  return {
    id := definition.id.getD fresh
    name := definition.name
    priority := definition.priority
    channelPattern, bodyPattern
    actions := definition.actions
    scenario
    metadata := definition.metadata }

end MessageStubDefinition

namespace MessageStub

def definition (stub : MessageStub) : MessageStubDefinition :=
  { id := some stub.id
    name := stub.name
    priority := stub.priority
    channelPattern := stub.channelPattern.map RequestPattern.definition
    bodyPattern := stub.bodyPattern.map Pattern.definition
    actions := stub.actions
    scenario := .ofSpec stub.scenario
    metadata := stub.metadata }

def toJson (stub : MessageStub) : Json := stub.definition.toJson

instance : BEq MessageStub := ⟨fun left right => left.toJson == right.toJson⟩

end MessageStub

end ServiceStub
