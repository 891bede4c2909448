import ServiceStub.Proofs.Http.Segment
import ServiceStub.Proofs.Scenario.Listing
import ServiceStub.Proofs.Server.Steps
import ServiceStub.Proofs.Text.Chars
import ServiceStub.Server.Handler

/-!
Requests that put a scenario into a state.  The path of such a request holds a segment for the name
of the scenario, and the name that is looked for is the segment as it is written.
-/

namespace ServiceStub

namespace AdminRoute

def scenarioPath (segment : String) : String := "/__admin/scenarios/" ++ segment ++ "/state"

private theorem toList_scenarioPath (segment : String) :
    (scenarioPath segment).toList =
      "/__admin/scenarios/".toList ++ segment.toList ++ "/state".toList := by
  change ("/__admin/scenarios/" ++ segment ++ "/state").toList = _
  rw [String.toList_append, String.toList_append]

private theorem ofPath?_scenarioPath {segment : String} (free : '/' ∉ segment.toList) :
    ofPath? (scenarioPath segment) = some (.scenarioState segment) := by
  have path : (scenarioPath segment).toList =
      ['/'].intercalate
        [[], "__admin".toList, "scenarios".toList, segment.toList, "state".toList] := by
    simp [toList_scenarioPath, List.intercalate]
  have free : ∀ piece ∈
      [[], "__admin".toList, "scenarios".toList, segment.toList, "state".toList],
      '/' ∉ piece := by
    simp only [List.forall_mem_cons]
    exact ⟨by decide, by decide, by decide, free, by decide, nofun⟩
  rw [ofPath?, path, Text.splitAt_intercalate '/' free (List.cons_ne_nil _ _)]
  simp [ofSegments?]

/-- What stands for the name in a target is the name that the route has. -/
theorem ofPath?_scenarioTarget {segment : String}
    (plain : ∀ c ∈ segment.toList, Http.isSegmentChar c ∨ c = '%') {uri : Http.Uri}
    (read : Http.Uri.ofString? (scenarioPath segment) = some uri) :
    ofPath? uri.path = some (.scenarioState segment) := by
  have front : "/__admin/scenarios/".toList.all Http.Uri.isPathChar := by decide +kernel
  have back : "/state".toList.all Http.Uri.isPathChar := by decide +kernel
  have isPath : ∀ c ∈ (scenarioPath segment).toList, Http.Uri.isPathChar c := by
    rw [toList_scenarioPath, List.forall_mem_append, List.forall_mem_append]
    refine ⟨⟨List.all_eq_true.mp front, ?_⟩, List.all_eq_true.mp back⟩
    intro c member
    rcases plain c member with segmentChar | rfl
    · exact Http.isPathChar_of_isSegmentChar segmentChar
    · rfl
  have free : '/' ∉ segment.toList := by
    intro member
    rcases plain _ member with segmentChar | same
    · exact absurd segmentChar (by decide)
    · exact absurd same (by decide)
  rw [Http.Uri.path_of_path (toList_scenarioPath segment) isPath read, ofPath?_scenarioPath free]

end AdminRoute

def AsksForState (body : Bytes) (value : String) : Prop :=
  (Text.ofBytes? body).bind Json.parseWritten = some (.object [("state", .string value)])

private theorem AdminRequest.readScenarioState_eq {request : AdminRequest} {value : String}
    (asks : AsksForState request.body value) : request.readScenarioState = .ok (some value) := by
  have present : request.body.isEmpty = false := by
    cases body : request.body with
    | nil =>
        have nothing : (Text.ofBytes? []).bind Json.parseWritten = none := rfl
        rw [AsksForState, body, nothing] at asks
        cases asks
    | cons _ _ => rfl
  rw [readScenarioState, present, if_neg Bool.false_ne_true, readBody, asks]
  rfl

namespace ServerState

private theorem administrate_scenarioState (state : ServerState) (request : AdminRequest)
    (name : String) {value : String} (put : request.method = "PUT")
    (asks : AsksForState request.body value) :
    state.administrate request (.scenarioState name) =
      match state.scenarios.setState name value with
      | .ok scenarios => ({ status := 204, headers := [], body := [] }, { state with scenarios })
      | .error error => ((AdminAnswer.ofFault (.refused error)).toResponse, state) := by
  have handled : request.handle state (.scenarioState name) =
      some (request.setScenario state name) := by
    simp only [AdminRequest.handle, put]
  rw [administrate, handled, AdminRequest.setScenario, AdminRequest.readScenarioState_eq asks]
  cases done : state.scenarios.setState name value with
  | ok scenarios =>
      have moved : state.setScenarioState name value = .ok { state with scenarios } :=
        setScenarioState_eq_ok_iff.mpr ⟨scenarios, done, rfl⟩
      simp only [bind, Except.bind, moved, AdminFault.ofState]
      rfl
  | error error =>
      have refused : state.setScenarioState name value = .error error := by
        rw [setScenarioState, done]
        rfl
      simp only [bind, Except.bind, refused, AdminFault.ofState]

/-- A scenario has been put into a state on request, and nothing else has changed. -/
structure PutsScenario (before : ServerState) (name value : String) (handled : Handled) : Prop where
  answered : handled.1 = .ok { status := 204, headers := [], body := [] }
  shown : handled.2.scenarios.all = before.scenarios.all.map fun scenario =>
    if scenario.name = name then { scenario with state := value } else scenario
  kept : handled.2 = { before with scenarios := handled.2.scenarios }

private theorem handle_scenarioState (state : ServerState) (now : Calendar.Instant) (fresh : Uuid)
    (format : ReportFormat) (incoming : Http.Incoming) {segment value : String}
    (routed : AdminRoute.ofPath? incoming.uri.path = some (.scenarioState segment))
    (put : incoming.method = "PUT") (asks : AsksForState incoming.body value) :
    let handled := state.handle now fresh format incoming
    if segment ∈ state.scenarios.all.map Scenario.name then
      PutsScenario state segment value handled
    else
      handled =
        (.ok (AdminAnswer.ofFault (.refused (.scenarioNotFound segment))).toResponse, state) := by
  intro handled
  let request : AdminRequest := { now, fresh, method := incoming.method, body := incoming.body }
  have answered : handled =
      (.ok (state.administrate request (.scenarioState segment)).1,
        (state.administrate request (.scenarioState segment)).2) := by
    simp only [handled, handle, routed, request]
  rw [answered, administrate_scenarioState state request segment put asks]
  by_cases listed : segment ∈ state.scenarios.all.map Scenario.name
  · have known := Scenarios.mem_names_iff.mp listed
    obtain ⟨scenarios, done⟩ :
        ∃ scenarios, state.scenarios.setState segment value = .ok scenarios :=
      ⟨_, Scenarios.setState_eq_ok_iff.mpr ⟨known, rfl⟩⟩
    rw [if_pos listed, done]
    exact ⟨rfl, Scenarios.all_setState done, rfl⟩
  · rw [if_neg listed, Scenarios.setState_eq_error listed]

/-- A request names a scenario by the segment as it is written, although the segment stands for
the text that it is decoded to.  So a scenario whose name has no character to escape is put into
the state that is asked for; any other name is taken for that of a different scenario. -/
theorem put_scenario_by_segment (state : ServerState) (now : Calendar.Instant) (fresh : Uuid)
    (format : ReportFormat) {kept : Char → Bool} (plain : ∀ c, kept c → Http.isSegmentChar c)
    {name value : String} (listed : name ∈ state.scenarios.all.map Scenario.name)
    {headers : Http.Headers} {body : Bytes} (asks : AsksForState body value)
    {incoming : Http.Incoming}
    (made : Http.Incoming.ofParts? "PUT" (AdminRoute.scenarioPath (Http.encodeSegment kept name))
      headers body = some incoming) :
    let segment := Http.encodeSegment kept name
    let handled := state.handle now fresh format incoming
    Http.Form.percentDecode (Text.toBytes segment) = Text.toBytes name ∧
      ((∀ c ∈ name.toList, kept c) → PutsScenario state name value handled) ∧
      ((∃ c ∈ name.toList, ¬kept c) →
        segment ≠ name ∧
          if segment ∈ state.scenarios.all.map Scenario.name then
            PutsScenario state segment value handled
          else
            handled = (.ok (AdminAnswer.ofFault
              (.refused (.scenarioNotFound segment))).toResponse, state)) := by
  intro segment handled
  obtain ⟨put, read, rfl⟩ := Http.Incoming.ofParts?_eq_some made
  have routed := AdminRoute.ofPath?_scenarioTarget (fun _ => Http.mem_encodeSegment plain) read
  have answer := state.handle_scenarioState now fresh format incoming routed put asks
  refine ⟨Http.percentDecode_encodeSegment plain name, ?_, ?_⟩
  · intro stays
    rw [Http.encodeSegment_eq_self_iff.mpr stays, if_pos listed] at answer
    exact answer
  · rintro ⟨c, member, escaped⟩
    refine ⟨fun same => ?_, answer⟩
    exact escaped (Http.encodeSegment_eq_self_iff.mp same c member)

private theorem asksForState_paid :
    AsksForState (Text.toBytes "\x7b\"state\": \"Paid\"\x7d") "Paid" := by
  have document : Json.parseWritten "\x7b\"state\": \"Paid\"\x7d" =
      some (.object [("state", .string "Paid")]) := by cbv
  rw [AsksForState, Text.ofBytes?_toBytes, Option.bind_some, document]

theorem put_scenario_by_segment_checkout :
    let stub : HttpStub := { id := .nil, scenario := some { name := "checkout" } }
    let state := (ofLimits none 3).run Float [.http (.addStub stub)]
    let uri : Http.Uri := ⟨none, none, some "/__admin/scenarios/checkout/state"⟩
    let body := Text.toBytes "\x7b\"state\": \"Paid\"\x7d"
    let incoming : Http.Incoming := { method := "PUT", uri, headers := [], body }
    PutsScenario state "checkout" "Paid" (state.handle ⟨0, 0⟩ .nil .plain incoming) := by
  intro stub state uri body incoming
  have listed : "checkout" ∈ state.scenarios.all.map Scenario.name := by decide +kernel
  have made : Http.Incoming.ofParts? "PUT"
      (AdminRoute.scenarioPath (Http.encodeSegment Http.isSegmentChar "checkout")) [] body =
        some incoming := by
    have token : Http.isToken "PUT" = true := by decide
    have read : Http.Uri.ofString?
        (AdminRoute.scenarioPath (Http.encodeSegment Http.isSegmentChar "checkout")) =
          some uri := by
      decide +kernel
    simp [Http.Incoming.ofParts?, token, read, guard, incoming]
  obtain ⟨-, set, -⟩ := put_scenario_by_segment state ⟨0, 0⟩ .nil .plain (fun _ plain => plain)
    listed asksForState_paid made
  exact set (List.all_eq_true.mp (by decide))

theorem escaped_name_not_found :
    let stub : HttpStub := { id := .nil, scenario := some { name := "check out" } }
    let state := (ofLimits none 3).run Float [.http (.addStub stub)]
    let uri : Http.Uri := ⟨none, none, some "/__admin/scenarios/check%20out/state"⟩
    let body := Text.toBytes "\x7b\"state\": \"Paid\"\x7d"
    let incoming : Http.Incoming := { method := "PUT", uri, headers := [], body }
    let handled := state.handle ⟨0, 0⟩ .nil .plain incoming
    AdminRoute.scenarioPath (Http.encodeSegment Http.isSegmentChar "check out") =
        "/__admin/scenarios/check%20out/state" ∧
      state.scenarios.all.map Scenario.name = ["check out"] ∧
      handled.1.toOption.map Http.Response.status = some 404 ∧
      handled.2.scenarios.stateOf "check out" = Scenario.started := by
  intro stub state uri body incoming handled
  have names : state.scenarios.all.map Scenario.name = ["check out"] := by decide +kernel
  have routed : AdminRoute.ofPath? uri.path = some (.scenarioState "check%20out") := by
    decide +kernel
  have answer :=
    state.handle_scenarioState ⟨0, 0⟩ .nil .plain incoming routed rfl asksForState_paid
  rw [names, if_neg (by decide)] at answer
  refine ⟨by decide +kernel, names, ?_, ?_⟩
  · rw [show handled = _ from answer]
    rfl
  · rw [show handled = _ from answer]
    decide +kernel

end ServerState

end ServiceStub
