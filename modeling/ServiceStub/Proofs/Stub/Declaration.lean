import ServiceStub.Stub.Message
import ServiceStub.Proofs.Pattern.RequestDeclaration
import ServiceStub.Proofs.Uuid

/-!
Stubs are read back from the documents they are written as.  Main statement: a stub that was built
from a document is, written and read again, built into the same stub, as long as no document that
values are compared with is a text or null.
-/

namespace ServiceStub

namespace Json

private theorem asPort?_ofNat {number : Nat} (bound : number ≤ 65535) :
    asPort? (.ofNat number) = some number := by
  simp [asPort?, asNatUpTo?, asNat?, ofNat, bound]

private theorem le_of_asPort? {document : Json} {number : Nat}
    (given : document.asPort? = some number) :
    number ≤ 65535 :=
  of_decide_eq_true (Option.filter_eq_some_iff.mp given).2

end Json

def Json.Declarable (document : Json) : Prop := document.IsCanonical ∧ document ≠ .null

private theorem Record.optional_canonical {record : Record} {name : String} {value : Option Json}
    (found : record.get? name = value) (declarable : ∀ document ∈ value, document.Declarable) :
    (record.optional name fun document => some document.canonical) = some value := by
  have written : record.get? name = value.map id := by rw [found, Option.map_id, id]
  refine Record.optional_eq written fun document given => ?_
  obtain ⟨canonical, notNull⟩ := declarable document given
  exact ⟨notNull, congrArg some canonical⟩

private theorem Record.declarable_of_optional {record : Record} {name : String}
    {value : Option Json}
    (given : (record.optional name fun document => some document.canonical) = some value) :
    ∀ document ∈ value, document.Declarable := by
  rintro document rfl
  obtain ⟨source, notNull, same⟩ := Record.of_optional given
  cases same
  exact ⟨Json.isCanonical_canonical source,
    fun null => notNull (Json.canonical_eq_null_iff.mp null)⟩

namespace Http

structure ResponseDefinition.Readable (response : ResponseDefinition) : Prop where
  status : response.status ≤ 65535
  jsonBody : ∀ body ∈ response.jsonBody, body.Declarable

namespace ResponseDefinition

variable {response : ResponseDefinition}

def members (response : ResponseDefinition) : List (String × Option Json) :=
  [("status", some (.ofNat response.status)),
    ("statusMessage", response.statusMessage.map .string),
    ("headers",
      if response.headers.isEmpty then none else some (Request.headersJson response.headers)),
    ("body", response.body.map .string),
    ("jsonBody", response.jsonBody),
    ("base64Body", response.base64Body.map .string),
    ("fixedDelayMilliseconds", response.fixedDelay.map .ofNat)]

theorem nodup_members (response : ResponseDefinition) :
    (response.members.map Prod.fst).Nodup := by
  rw [show response.members.map Prod.fst = fieldNames from rfl]
  decide

theorem Readable.ofJson_toJson (readable : response.Readable) :
    ofJson response.toJson = some response := by
  obtain ⟨record, given, found, -⟩ :=
    Record.ofJson_record_of_distinct fieldNames response.nodup_members
  have statusGiven : record.get? "status" = (some response.status).map .ofNat :=
    found "status" _ (.head _) (by decide)
  have status : record.withDefault "status" 200 Json.asPort? = some response.status :=
    Record.withDefault_eq statusGiven fun _ same =>
      Json.asPort?_ofNat (Option.some.inj same ▸ readable.status)
  have headersGiven : record.get? "headers" =
      Json.listOption (fun header => .array [.string header.1, .string header.2])
        response.headers :=
    found "headers" _ (.tail _ (.tail _ (.head _))) (by decide)
  have headers : record.withDefault "headers" [] Request.readHeaders = some response.headers :=
    Record.list_eq headersGiven fun _ _ => rfl
  have jsonBody : (record.optional "jsonBody" fun body => some body.canonical) =
      some response.jsonBody :=
    Record.optional_canonical (found "jsonBody" _ (by simp [members]) (by decide))
      readable.jsonBody
  have fixedDelayGiven : record.get? "fixedDelayMilliseconds" = response.fixedDelay.map .ofNat :=
    found "fixedDelayMilliseconds" _ (by simp [members]) (by decide)
  have fixedDelay : record.optional "fixedDelayMilliseconds" Json.asNat? =
      some response.fixedDelay :=
    Record.optional_eq fixedDelayGiven fun _ _ => ⟨nofun, by simp [Json.asNat?, Json.ofNat]⟩
  have statusMessage := Record.optional_text
    (found "statusMessage" (response.statusMessage.map .string) (by simp [members]) (by decide))
  have body := Record.optional_text
    (found "body" (response.body.map .string) (by simp [members]) (by decide))
  have base64Body := Record.optional_text
    (found "base64Body" (response.base64Body.map .string) (by simp [members]) (by decide))
  have shape : Record.ofJson fieldNames response.toJson = some record := given
  rw [ofJson, shape]
  simp only [Option.bind_eq_bind, Option.bind_some, status, statusMessage, headers, body, jsonBody,
    base64Body, fixedDelay]
  rfl

private theorem readable_of_ofJson {document : Json} (given : ofJson document = some response) :
    response.Readable := by
  obtain ⟨record, -, fields⟩ := Option.bind_eq_some_iff.mp given
  simp only [Option.bind_eq_bind, Option.bind_eq_some_iff, pure, Option.some.injEq] at fields
  obtain ⟨status, statusRead, _, -, _, -, _, -, jsonBody, jsonBodyRead, _, -, _, -, rfl⟩ := fields
  refine ⟨?_, Record.declarable_of_optional jsonBodyRead⟩
  rcases Record.of_withDefault statusRead with rfl | ⟨document, read⟩
  · exact (by decide : 200 ≤ 65535)
  · exact Json.le_of_asPort? read

end ResponseDefinition

end Http

namespace Record

variable {record : Record} {name : String}

private theorem optional_uuid {id : Uuid} (found : record.get? name = some (.string id.toString)) :
    record.optional name Json.asUuid? = some (some id) := by
  rw [optional_of_get? found nofun, Json.asUuid?, Json.asString?, Option.bind_some,
    Uuid.ofString?_toString, Option.map_some]

private theorem optional_priority {value : Option Int} (found : record.get? name = value.map .ofInt)
    (bounds : ∀ priority ∈ value, -0x80000000 ≤ priority ∧ priority < 0x80000000) :
    record.optional name Json.asPriority? = some value := by
  refine optional_eq found fun priority given => ?_
  obtain ⟨least, greatest⟩ := bounds priority given
  exact ⟨nofun, by simp [Json.asPriority?, Json.asInt?, Json.ofInt, Option.filter, least, greatest]⟩

private theorem bounds_of_priority {value : Option Int}
    (given : record.optional name Json.asPriority? = some value) :
    ∀ priority ∈ value, -0x80000000 ≤ priority ∧ priority < 0x80000000 := by
  rintro priority rfl
  obtain ⟨document, -, read⟩ := of_optional given
  simpa using (Option.filter_eq_some_iff.mp read).2

end Record

namespace ScenarioFields

private theorem toSpec_ofSpec {fields : ScenarioFields} {spec : Option ScenarioSpec}
    (compiled : fields.toSpec = .ok spec) : (ofSpec spec).toSpec = .ok spec := by
  unfold toSpec at compiled
  split at compiled
  · next name requiredState newState =>
      split at compiled
      · cases compiled
      · next filled =>
          cases compiled
          exact if_neg filled
  · cases compiled
    rfl
  · cases compiled

private theorem read_eq {fields : ScenarioFields} {record : Record}
    (found : ∀ name value, (name, value) ∈ fields.members → record.get? name = value) :
    read record = some fields := by
  rw [read, Record.optional_text (found "scenarioName" _ (.head _)),
    Record.optional_text (found "requiredScenarioState" _ (.tail _ (.head _))),
    Record.optional_text (found "newScenarioState" _ (.tail _ (.tail _ (.head _))))]
  rfl

private theorem name_mem {fields : ScenarioFields} {name : String} {value : Option Json}
    (listed : (name, value) ∈ fields.members) : name ∈ fieldNames := by
  change name ∈ fields.members.map Prod.fst
  exact List.mem_map.mpr ⟨(name, value), listed, rfl⟩

end ScenarioFields

private theorem StateError.ofPatternResult_eq_ok {α : Type} {field : String}
    {result : Except PatternError α} {value : α} :
    ofPatternResult field result = .ok value ↔ result = .ok value := by
  cases result with
  | ok inner => simp [ofPatternResult]
  | error fault => simp [ofPatternResult]

private theorem RequestDefinition.ofJson_empty : ofJson (.object []) = some {} := rfl

def HttpStub.jsonOperands (stub : HttpStub) : List Json := stub.request.jsonOperands

/-- A stub that a document may declare. -/
structure HttpStub.Built (stub : HttpStub) : Prop where
  priority : ∀ priority ∈ stub.priority, -0x80000000 ≤ priority ∧ priority < 0x80000000
  request : stub.request.Built
  response : stub.response.Readable
  scenario : (ScenarioFields.ofSpec stub.scenario).toSpec = .ok stub.scenario
  metadata : ∀ metadata ∈ stub.metadata, metadata.Declarable

namespace HttpStub

variable {stub : HttpStub}

def members (stub : HttpStub) : List (String × Option Json) :=
  [("id", some (.string stub.id.toString)),
    ("name", stub.name.map .string),
    ("priority", stub.priority.map .ofInt),
    ("request", some stub.request.toJson),
    ("response", some stub.response.toJson),
    ("persistent", if stub.persistent then some (.bool true) else none),
    ("metadata", stub.metadata)] ++
  (ScenarioFields.ofSpec stub.scenario).members

theorem nodup_members (stub : HttpStub) : (stub.members.map Prod.fst).Nodup := by
  rw [show stub.members.map Prod.fst =
    ["id", "name", "priority", "request", "response", "persistent", "metadata", "scenarioName",
      "requiredScenarioState", "newScenarioState"] from rfl]
  decide

private theorem scenarioNames_subset :
    ScenarioFields.fieldNames ⊆ HttpStubDefinition.fieldNames := by
  decide

theorem Built.ofJson_toJson (built : Built stub) :
    HttpStubDefinition.ofJson stub.toJson = some stub.definition := by
  obtain ⟨record, given, found, -⟩ :=
    Record.ofJson_record_of_distinct HttpStubDefinition.fieldNames stub.nodup_members
  have id := Record.optional_uuid (found "id" _ (.head _) (by decide))
  have name := Record.optional_text (found "name" (stub.name.map .string)
    (by simp [members]) (by decide))
  have priority := Record.optional_priority (found "priority" (stub.priority.map .ofInt)
    (by simp [members]) (by decide)) built.priority
  have metadata := Record.optional_canonical (found "metadata" stub.metadata
    (by simp [members]) (by decide)) built.metadata
  have requestGiven : record.get? "request" =
      (some stub.request.definition).map RequestDefinition.toJson :=
    found "request" _ (by simp [members, RequestPattern.toJson]) (by decide)
  have request : record.withDefault "request" {} RequestDefinition.ofJson =
      some stub.request.definition :=
    Record.withDefault_eq requestGiven fun _ same =>
      Option.some.inj same ▸ built.request.ofJson_toJson
  have responseGiven : record.get? "response" =
      (some stub.response).map Http.ResponseDefinition.toJson :=
    found "response" _ (by simp [members]) (by decide)
  have response : record.withDefault "response" {} Http.ResponseDefinition.ofJson =
      some stub.response :=
    Record.withDefault_eq responseGiven fun _ same =>
      Option.some.inj same ▸ built.response.ofJson_toJson
  have persistentGiven : record.get? "persistent" =
      if stub.persistent then some (.bool true) else none :=
    found "persistent" _ (by simp [members]) (by decide)
  have persistent : record.withDefault "persistent" false Json.asBool? = some stub.persistent := by
    rw [Record.withDefault, persistentGiven]
    cases stub.persistent <;> rfl
  have scenario : ScenarioFields.read record = some (.ofSpec stub.scenario) := by
    refine ScenarioFields.read_eq fun name value listed => ?_
    exact found name value (List.mem_append_right _ listed)
      (scenarioNames_subset (ScenarioFields.name_mem listed))
  have shape : Record.ofJson HttpStubDefinition.fieldNames stub.toJson = some record := given
  rw [HttpStubDefinition.ofJson, shape]
  simp only [Option.bind_eq_bind, Option.bind_some, id, name, priority, request, response,
    scenario, persistent, metadata]
  rfl

theorem Built.compile_definition (built : Built stub) (fresh : Uuid) :
    stub.definition.compile fresh = .ok stub := by
  have request : stub.definition.request.compile = .ok stub.request :=
    built.request.compile_definition
  have scenario : stub.definition.scenario.toSpec = .ok stub.scenario := built.scenario
  rw [HttpStubDefinition.compile, request, StateError.ofPatternResult, ok_bind, scenario, ok_bind]
  rfl

theorem built_of_ofJson {document : Json} {definition : HttpStubDefinition} {fresh : Uuid}
    (given : HttpStubDefinition.ofJson document = some definition)
    (compiled : definition.compile fresh = .ok stub)
    (plain : ∀ operand ∈ stub.jsonOperands, operand.isPlain) : Built stub := by
  obtain ⟨record, -, fields⟩ := Option.bind_eq_some_iff.mp given
  simp only [Option.bind_eq_bind, Option.bind_eq_some_iff, pure, Option.some.injEq] at fields
  obtain ⟨_, -, _, -, priority, priorityRead, request, requestRead, response, responseRead,
    scenario, -, _, -, metadata, metadataRead, rfl⟩ := fields
  obtain ⟨pattern, requestCompiled, compiled⟩ := bind_eq_ok.mp compiled
  obtain ⟨spec, scenarioCompiled, same⟩ := bind_eq_ok.mp compiled
  cases same
  exact {
    priority := Record.bounds_of_priority priorityRead
    request := by
      have requestCompiled := StateError.ofPatternResult_eq_ok.mp requestCompiled
      rcases Record.of_withDefault requestRead with rfl | ⟨document, read⟩
      · exact RequestPattern.built_of_ofJson RequestDefinition.ofJson_empty requestCompiled plain
      · exact RequestPattern.built_of_ofJson read requestCompiled plain
    response := by
      rcases Record.of_withDefault responseRead with rfl | ⟨document, read⟩
      · exact ⟨(by decide : 200 ≤ 65535), nofun⟩
      · exact Http.ResponseDefinition.readable_of_ofJson read
    scenario := ScenarioFields.toSpec_ofSpec scenarioCompiled
    metadata := Record.declarable_of_optional metadataRead }

end HttpStub

namespace MessageAction

def jsonOperands : MessageAction → List Json
  | .reply _ => []
  | .broadcast channels _ => channels.jsonOperands

def Built : MessageAction → Prop
  | .reply _ => True
  | .broadcast channels _ => channels.Built

private theorem toJson_reply (body : String) :
    (reply body).toJson = .object [("body", .string body), ("type", .string "send")] := by
  have sorted : "body" < "type" := by decide +kernel
  simp [toJson, Json.record, Assoc.ofList, Assoc.insert, sorted]

private theorem toJson_broadcast (channels : RequestPattern) (body : String) :
    (broadcast channels body).toJson = .object
      [("body", .string body), ("channels", channels.toJson), ("type", .string "broadcast")] := by
  have first : "body" < "channels" := by decide +kernel
  have second : "channels" < "type" := by decide +kernel
  simp [toJson, Json.record, Assoc.ofList, Assoc.insert, first, second]

theorem Built.ofJson_toJson {action : MessageAction} (built : action.Built) :
    ofJson action.toJson = some action := by
  cases action with
  | reply body =>
      rw [toJson_reply]
      rfl
  | broadcast channels body =>
      have channelsRead : RequestDefinition.ofJson channels.toJson = some channels.definition :=
        RequestPattern.Built.ofJson_toJson built
      have compiled : channels.definition.compile = .ok channels :=
        RequestPattern.Built.compile_definition built
      have fields : ofJson (broadcast channels body).toJson = ofFields "broadcast"
          (.object [("body", .string body), ("channels", channels.toJson)]) := by
        rw [toJson_broadcast]
        rfl
      have given : Record.ofJson ["channels", "body"]
          (.object [("body", .string body), ("channels", channels.toJson)]) =
          some ⟨[("body", .string body), ("channels", channels.toJson)]⟩ := rfl
      have pattern : (⟨[("body", .string body), ("channels", channels.toJson)]⟩ : Record).required
          "channels" RequestDefinition.ofJson = some channels.definition := channelsRead
      have text : (⟨[("body", .string body), ("channels", channels.toJson)]⟩ : Record).required
          "body" Json.asString? = some body := rfl
      rw [fields, ofFields, given]
      simp only [Option.bind_eq_bind, Option.bind_some, pattern, compiled, Except.toOption, text]
      rfl

private theorem built_of_ofFields {type : String} {fields : Json} {action : MessageAction}
    (given : ofFields type fields = some action)
    (plain : ∀ operand ∈ action.jsonOperands, operand.isPlain) : action.Built := by
  unfold ofFields at given
  split at given
  · obtain ⟨record, -, given⟩ := Option.bind_eq_some_iff.mp given
    obtain ⟨body, -, same⟩ := Option.bind_eq_some_iff.mp given
    cases same
    trivial
  · obtain ⟨record, -, given⟩ := Option.bind_eq_some_iff.mp given
    obtain ⟨definition, required, given⟩ := Option.bind_eq_some_iff.mp given
    obtain ⟨channels, compiled, given⟩ := Option.bind_eq_some_iff.mp given
    obtain ⟨body, -, same⟩ := Option.bind_eq_some_iff.mp given
    cases same
    obtain ⟨document, -, read⟩ := Option.bind_eq_some_iff.mp required
    refine RequestPattern.built_of_ofJson read ?_ plain
    cases result : definition.compile with
    | error fault => simp [result, Except.toOption] at compiled
    | ok pattern => simpa [result, Except.toOption] using compiled
  · cases given

theorem built_of_ofJson {document : Json} {action : MessageAction}
    (given : ofJson document = some action)
    (plain : ∀ operand ∈ action.jsonOperands, operand.isPlain) : action.Built := by
  unfold ofJson at given
  split at given
  · split at given
    · exact built_of_ofFields given plain
    · cases given
  · exact built_of_ofFields given plain
  · cases given

end MessageAction

namespace MessageStubDefinition

variable {α β : Type} {field : String} {compile : α → Except PatternError β}

private theorem compileOptional_map {define : β → α} {value : Option β}
    (each : ∀ part ∈ value, compile (define part) = .ok part) :
    compileOptional field compile (value.map define) = .ok value := by
  cases value with
  | none => rfl
  | some part =>
      rw [Option.map_some, compileOptional, each part rfl]
      rfl

private theorem exists_of_compileOptional {definition : Option α} {value : Option β}
    (compiled : compileOptional field compile definition = .ok value) :
    ∀ part ∈ value, ∃ inner ∈ definition, compile inner = .ok part := by
  rintro part rfl
  cases definition with
  | none => cases compiled
  | some inner =>
      obtain ⟨built, given, same⟩ := bind_eq_ok.mp compiled
      cases same
      exact ⟨inner, rfl, StateError.ofPatternResult_eq_ok.mp given⟩

end MessageStubDefinition

def MessageStub.jsonOperands (stub : MessageStub) : List Json :=
  stub.channelPattern.toList.flatMap RequestPattern.jsonOperands ++
    (stub.bodyPattern.toList.flatMap Pattern.jsonOperands ++
      stub.actions.flatMap MessageAction.jsonOperands)

structure MessageStub.Built (stub : MessageStub) : Prop where
  priority : ∀ priority ∈ stub.priority, -0x80000000 ≤ priority ∧ priority < 0x80000000
  channelPattern : ∀ pattern ∈ stub.channelPattern, pattern.Built
  bodyPattern : ∀ pattern ∈ stub.bodyPattern, pattern.Built
  actions : ∀ action ∈ stub.actions, action.Built
  scenario : (ScenarioFields.ofSpec stub.scenario).toSpec = .ok stub.scenario
  metadata : ∀ metadata ∈ stub.metadata, metadata.Declarable

namespace MessageStub

variable {stub : MessageStub}

def members (stub : MessageStub) : List (String × Option Json) :=
  [("id", some (.string stub.id.toString)),
    ("name", stub.name.map .string),
    ("priority", stub.priority.map .ofInt),
    ("channelPattern",
      (stub.channelPattern.map RequestPattern.definition).map RequestDefinition.toJson),
    ("bodyPattern", (stub.bodyPattern.map Pattern.definition).map PatternDefinition.toJson),
    ("actions", some (.array (stub.actions.map MessageAction.toJson))),
    ("metadata", stub.metadata)] ++
  (ScenarioFields.ofSpec stub.scenario).members

theorem nodup_members (stub : MessageStub) : (stub.members.map Prod.fst).Nodup := by
  rw [show stub.members.map Prod.fst =
    ["id", "name", "priority", "channelPattern", "bodyPattern", "actions", "metadata",
      "scenarioName", "requiredScenarioState", "newScenarioState"] from rfl]
  decide

private theorem scenarioNames_subset :
    ScenarioFields.fieldNames ⊆ MessageStubDefinition.fieldNames := by
  decide

theorem Built.ofJson_toJson (built : Built stub) :
    MessageStubDefinition.ofJson stub.toJson = some stub.definition := by
  obtain ⟨record, given, found, -⟩ :=
    Record.ofJson_record_of_distinct MessageStubDefinition.fieldNames stub.nodup_members
  have id := Record.optional_uuid (found "id" _ (.head _) (by decide))
  have name := Record.optional_text (found "name" (stub.name.map .string)
    (by simp [members]) (by decide))
  have priority := Record.optional_priority (found "priority" (stub.priority.map .ofInt)
    (by simp [members]) (by decide)) built.priority
  have metadata := Record.optional_canonical (found "metadata" stub.metadata
    (by simp [members]) (by decide)) built.metadata
  have channelPattern : record.optional "channelPattern" RequestDefinition.ofJson =
      some (stub.channelPattern.map RequestPattern.definition) := by
    refine Record.optional_eq (found "channelPattern" _ (.tail _ (.tail _ (.tail _ (.head _))))
      (by decide)) fun definition listed => ?_
    obtain ⟨pattern, declared, rfl⟩ := Option.map_eq_some_iff.mp listed
    exact ⟨nofun, (built.channelPattern pattern declared).ofJson_toJson⟩
  have bodyPattern : record.optional "bodyPattern" PatternDefinition.ofJson =
      some (stub.bodyPattern.map Pattern.definition) := by
    refine Record.optional_eq (found "bodyPattern" _
      (.tail _ (.tail _ (.tail _ (.tail _ (.head _))))) (by decide)) fun definition listed => ?_
    obtain ⟨pattern, declared, rfl⟩ := Option.map_eq_some_iff.mp listed
    exact ⟨nofun, (built.bodyPattern pattern declared).ofJson_toJson⟩
  have actionsGiven : record.get? "actions" =
      some (.array (stub.actions.map MessageAction.toJson)) :=
    found "actions" _ (by simp [members]) (by decide)
  have actions : record.withDefault "actions" [] (Json.listOf? MessageAction.ofJson) =
      some stub.actions := by
    rw [Record.withDefault, actionsGiven]
    exact Json.listOf?_map fun action listed => (built.actions action listed).ofJson_toJson
  have scenario : ScenarioFields.read record = some (.ofSpec stub.scenario) := by
    refine ScenarioFields.read_eq fun name value listed => ?_
    exact found name value (List.mem_append_right _ listed)
      (scenarioNames_subset (ScenarioFields.name_mem listed))
  have shape : Record.ofJson MessageStubDefinition.fieldNames stub.toJson = some record := given
  rw [MessageStubDefinition.ofJson, shape]
  simp only [Option.bind_eq_bind, Option.bind_some, id, name, priority, channelPattern,
    bodyPattern, actions, scenario, metadata]
  rfl

theorem Built.compile_definition (built : Built stub) (fresh : Uuid) :
    stub.definition.compile fresh = .ok stub := by
  have channelPattern : MessageStubDefinition.compileOptional "channelPattern"
      RequestDefinition.compile stub.definition.channelPattern = .ok stub.channelPattern :=
    MessageStubDefinition.compileOptional_map fun pattern declared =>
      (built.channelPattern pattern declared).compile_definition
  have bodyPattern : MessageStubDefinition.compileOptional "bodyPattern"
      PatternDefinition.compile stub.definition.bodyPattern = .ok stub.bodyPattern :=
    MessageStubDefinition.compileOptional_map fun pattern declared =>
      (built.bodyPattern pattern declared).compile_definition
  have scenario : stub.definition.scenario.toSpec = .ok stub.scenario := built.scenario
  rw [MessageStubDefinition.compile, channelPattern, ok_bind, bodyPattern, ok_bind, scenario,
    ok_bind]
  rfl

theorem built_of_ofJson {document : Json} {definition : MessageStubDefinition} {fresh : Uuid}
    (given : MessageStubDefinition.ofJson document = some definition)
    (compiled : definition.compile fresh = .ok stub)
    (plain : ∀ operand ∈ stub.jsonOperands, operand.isPlain) : Built stub := by
  obtain ⟨record, -, fields⟩ := Option.bind_eq_some_iff.mp given
  simp only [Option.bind_eq_bind, Option.bind_eq_some_iff, pure, Option.some.injEq] at fields
  obtain ⟨_, -, _, -, priority, priorityRead, channelPattern, channelRead, bodyPattern, bodyRead,
    actions, actionsRead, scenario, -, metadata, metadataRead, rfl⟩ := fields
  obtain ⟨channels, channelCompiled, compiled⟩ := bind_eq_ok.mp compiled
  obtain ⟨body, bodyCompiled, compiled⟩ := bind_eq_ok.mp compiled
  obtain ⟨spec, scenarioCompiled, same⟩ := bind_eq_ok.mp compiled
  cases same
  simp only [jsonOperands, List.forall_mem_append, List.forall_mem_flatMap] at plain
  obtain ⟨plainChannels, plainBody, plainActions⟩ := plain
  exact {
    priority := Record.bounds_of_priority priorityRead
    channelPattern := by
      intro pattern declared
      obtain ⟨inner, rfl, innerCompiled⟩ :=
        MessageStubDefinition.exists_of_compileOptional channelCompiled pattern declared
      obtain ⟨document, -, read⟩ := Record.of_optional channelRead
      exact RequestPattern.built_of_ofJson read innerCompiled
        (plainChannels pattern (Option.mem_toList.mpr declared))
    bodyPattern := by
      intro pattern declared
      obtain ⟨inner, rfl, innerCompiled⟩ :=
        MessageStubDefinition.exists_of_compileOptional bodyCompiled pattern declared
      obtain ⟨document, -, read⟩ := Record.of_optional bodyRead
      exact PatternDefinition.sound_of_ofJson read pattern innerCompiled
        (plainBody pattern (Option.mem_toList.mpr declared))
    actions := by
      intro action listed
      obtain ⟨document, read⟩ := Record.exists_of_list actionsRead action listed
      exact MessageAction.built_of_ofJson read (plainActions action listed)
    scenario := ScenarioFields.toSpec_ofSpec scenarioCompiled
    metadata := Record.declarable_of_optional metadataRead }

end MessageStub

/-- A stub that was built from a document is read back from the document it is written as, and is
built again with the same parts at every depth, whatever fresh id is at hand. -/
theorem written_stubs_build_again :
    (∀ (document : Json) (definition : HttpStubDefinition) (fresh : Uuid) (stub : HttpStub),
      HttpStubDefinition.ofJson document = some definition →
      definition.compile fresh = .ok stub → (∀ operand ∈ stub.jsonOperands, operand.isPlain) →
      ∃ again, HttpStubDefinition.ofJson stub.toJson = some again ∧
        ∀ other, again.compile other = .ok stub) ∧
    (∀ (document : Json) (definition : MessageStubDefinition) (fresh : Uuid) (stub : MessageStub),
      MessageStubDefinition.ofJson document = some definition →
      definition.compile fresh = .ok stub → (∀ operand ∈ stub.jsonOperands, operand.isPlain) →
      ∃ again, MessageStubDefinition.ofJson stub.toJson = some again ∧
        ∀ other, again.compile other = .ok stub) := by
  constructor
  · intro document definition fresh stub given compiled plain
    have built := HttpStub.built_of_ofJson given compiled plain
    exact ⟨stub.definition, built.ofJson_toJson, built.compile_definition⟩
  · intro document definition fresh stub given compiled plain
    have built := MessageStub.built_of_ofJson given compiled plain
    exact ⟨stub.definition, built.ofJson_toJson, built.compile_definition⟩

/-- The document of a stub in a scenario, with nested patterns, a method in lower case and a
document to compare with that is given as a text. -/
def visitDocument : Json :=
  .object
    [("name", .string "visit"),
      ("request", .object
        [("method", .string "get"), ("urlPath", .string "/visits"),
          ("headers", .object
            [("x-visitor", .object
              [("includes", .array
                [.object [("contains", .string "a")],
                  .object [("not", .object [("absent", .bool true)])]])])]),
          ("bodyPatterns", .array
            [.object [("equalToJson", .string "[1]"), ("ignoreArrayOrder", .bool true)]])]),
      ("scenarioName", .string "visits"), ("newScenarioState", .string "seen")]

def visitDefinition : HttpStubDefinition where
  name := some "visit"
  request := {
    method := some "get"
    urls := [("urlPath", "/visits")]
    headers :=
      [("x-visitor", .includes [.mk [.contains "a"] {}, .mk [.not (.mk [.absent] {})] {}])]
    bodies := [.mk [.equalToJson (.string "[1]")] { ignoreArrayOrder := some true }] }
  scenario := { name := some "visits", newState := some "seen" }

def visitStub : HttpStub where
  id := .nil
  name := some "visit"
  request := {
    method := some "GET"
    url := .path "/visits"
    headers := [("x-visitor", .includes [.contains "a", .not .absent])]
    bodies := [.equalToJson { expected := .array [.ofInt 1], ignoreArrayOrder := true }] }
  scenario := some { name := "visits", newState := some "seen" }

def alertDocument : Json :=
  .object
    [("bodyPattern", .object
        [("before", .string "now"), ("expectedOffset", .ofInt 3),
          ("expectedOffsetUnit", .string "Hour")]),
      ("actions", .array
        [.object
          [("type", .string "broadcast"), ("channels", .object [("urlPath", .string "/alerts")]),
            ("body", .string "late")]]),
      ("priority", .ofInt 1)]

def alertDefinition : MessageStubDefinition where
  priority := some 1
  bodyPattern := some (.mk [.dateTime .before "now"]
    { expectedOffset := some 3, expectedOffsetUnit := some "Hour" })
  actions := [.broadcast { url := .path "/alerts" } "late"]

def alertStub : MessageStub where
  id := .nil
  priority := some 1
  bodyPattern := some (.dateTime
    { comparison := .before, text := "now", expected := .now none, offset := some (3, .hours) })
  actions := [.broadcast { url := .path "/alerts" } "late"]

private theorem ofJson_visitDocument :
    HttpStubDefinition.ofJson visitDocument = some visitDefinition := by
  have each : ∀ pattern ∈ [Pattern.contains "a", .not .absent], Declaration.Declared pattern := by
    intro pattern member
    simp only [List.mem_cons, List.not_mem_nil, or_false] at member
    rcases member with rfl | rfl
    · exact Pattern.Built.declared (.contains "a")
    · exact Pattern.Built.declared (.not .absent)
  have header : MultiValueDefinition.ofJson (.object
        [("includes", .array
          [.object [("contains", .string "a")],
            .object [("not", .object [("absent", .bool true)])]])]) =
      some (.includes [.mk [.contains "a"] {}, .mk [.not (.mk [.absent] {})] {}]) :=
    (MultiValuePattern.declared_includes (List.cons_ne_nil _ _) each).read_write
  have body : PatternDefinition.ofJson (.object
        [("equalToJson", .string "[1]"), ("ignoreArrayOrder", .bool true)]) =
      some (.mk [.equalToJson (.string "[1]")] { ignoreArrayOrder := some true }) := by
    rw [PatternDefinition.ofJson_eq rfl, PatternDefinition.readFields_eq]
    rfl
  -- What is left around the two patterns is evaluated.
  change ((((((MultiValueDefinition.ofJson _).map fun header => ("x-visitor", header)).bind
    fun header => some [header]).map Assoc.ofList).bind fun headers =>
      ((PatternDefinition.ofJson _).bind fun body => some [body]).bind fun bodies =>
        some { visitDefinition.request with headers := headers, bodies := bodies }).bind
          fun request => some { visitDefinition with request := request }) = _
  rw [header, body]
  rfl

private theorem ofJson_alertDocument :
    MessageStubDefinition.ofJson alertDocument = some alertDefinition := by
  have body : PatternDefinition.ofJson (.object
        [("before", .string "now"), ("expectedOffset", .ofInt 3),
          ("expectedOffsetUnit", .string "Hour")]) =
      some (.mk [.dateTime .before "now"]
        { expectedOffset := some 3, expectedOffsetUnit := some "Hour" }) := by
    rw [PatternDefinition.ofJson_eq rfl, PatternDefinition.readFields_eq]
    rfl
  change ((PatternDefinition.ofJson _).map some).bind
    (fun body => some { alertDefinition with bodyPattern := body }) = _
  rw [body]
  rfl

theorem written_stubs_build_again_visit :
    (HttpStubDefinition.ofJson visitDocument = some visitDefinition ∧
      visitDefinition.compile .nil = .ok visitStub ∧
      (∀ operand ∈ visitStub.jsonOperands, operand.isPlain) ∧
      ∃ again, HttpStubDefinition.ofJson visitStub.toJson = some again ∧
        ∀ other, again.compile other = .ok visitStub) ∧
    (MessageStubDefinition.ofJson alertDocument = some alertDefinition ∧
      alertDefinition.compile .nil = .ok alertStub ∧
      (∀ operand ∈ alertStub.jsonOperands, operand.isPlain) ∧
      ∃ again, MessageStubDefinition.ofJson alertStub.toJson = some again ∧
        ∀ other, again.compile other = .ok alertStub) := by
  have visitPlain : ∀ operand ∈ visitStub.jsonOperands, operand.isPlain := by
    decide
  have alertPlain : ∀ operand ∈ alertStub.jsonOperands, operand.isPlain := by
    decide
  exact ⟨⟨ofJson_visitDocument, rfl, visitPlain,
      written_stubs_build_again.1 visitDocument visitDefinition .nil visitStub
        ofJson_visitDocument rfl visitPlain⟩,
    ofJson_alertDocument, rfl, alertPlain,
      written_stubs_build_again.2 alertDocument alertDefinition .nil alertStub
        ofJson_alertDocument rfl alertPlain⟩

end ServiceStub
