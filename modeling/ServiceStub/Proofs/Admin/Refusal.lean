import ServiceStub.Proofs.Server.SharedScenarios
import ServiceStub.Proofs.Server.Writes
import ServiceStub.Server.Handler

/-!
What the administration is asked for, and what becomes of it: an answer comes with the change that
was asked for, and a refusal leaves the server as it was.
-/

namespace ServiceStub

theorem AdminAnswer.status_toResponse (answer : AdminAnswer) :
    answer.toResponse.status = answer.status := by
  rw [toResponse]
  split <;> rfl

private theorem AdminFault.status_cases (fault : AdminFault) :
    fault.status ∈ [400, 404, 405, 409] := by
  unfold status
  split <;> decide

namespace AdminRequest

def wanted (state : ServerState) (asked : Option ServerOperation) : ServerState :=
  asked.elim state (state.perform Float)

def successes : List Nat := [200, 201, 204]

private theorem shown_success : 200 ∈ successes := by decide

private theorem created_success : 201 ∈ successes := by decide

private theorem done_success : 204 ∈ successes := by decide

private theorem not_success : ∀ status ∈ [400, 404, 405, 409], status ∉ successes := by decide

/-- An answer comes with what was asked for.  What is refused could not be done either. -/
def Carries (state : ServerState) (asked : Option ServerOperation) : AdminResult → Prop
  | .ok (answer, after) => answer.status ∈ successes ∧ after = wanted state asked
  | .error _ => wanted state asked = state

namespace Carries

variable {state : ServerState} {Value : Type}

theorem read {source : Except AdminFault Value} {asked : Value → Option ServerOperation}
    {respond : Value → AdminResult}
    (carries : ∀ value, source = .ok value → Carries state (asked value) (respond value)) :
    Carries state (source.toOption.bind asked) (source.bind respond) := by
  cases outcome : source with
  | error fault => exact rfl
  | ok value => exact carries value outcome

theorem change {operation : ServerOperation} {outcome : Except StateError ServerState}
    {answer : AdminAnswer}
    (performed : state.perform Float operation = outcome.toOption.getD state)
    (success : answer.status ∈ successes) :
    Carries state (some operation)
      ((AdminFault.ofState outcome).bind fun after => .ok (answer, after)) := by
  cases done : outcome with
  | error error => exact performed.trans (by rw [done]; rfl)
  | ok after => exact ⟨success, (performed.trans (by rw [done]; rfl)).symm⟩

private theorem changeWith {operation : ServerOperation}
    {outcome : Except StateError (Value × ServerState)} (answer : Value → AdminAnswer)
    (performed : state.perform Float operation = (outcome.map Prod.snd).toOption.getD state)
    (success : ∀ value, (answer value).status ∈ successes) :
    Carries state (some operation)
      ((AdminFault.ofState outcome).bind fun result => .ok (answer result.1, result.2)) := by
  cases done : outcome with
  | error error => exact performed.trans (by rw [done]; rfl)
  | ok result => exact ⟨success _, (performed.trans (by rw [done]; rfl)).symm⟩

theorem look {source : Except AdminFault Value} {respond : Value → AdminResult}
    (looks : ∀ value, Carries state none (respond value)) :
    Carries state none (source.bind respond) := by
  cases source with
  | error fault => exact rfl
  | ok value => exact looks value

theorem shown (document : Json) : Carries state none (AdminRequest.shown state document) :=
  ⟨shown_success, rfl⟩

theorem done (operation : ServerOperation) :
    Carries state (some operation) (AdminRequest.done (state.perform Float operation)) :=
  ⟨done_success, rfl⟩

end Carries

variable {request : AdminRequest} {state : ServerState}

def asksToAddStub (request : AdminRequest) : Option ServerOperation := do
  let definition ← (request.readBody HttpStubDefinition.ofJson).toOption
  let stub ← (AdminFault.ofState (definition.compile request.fresh)).toOption
  return .http (.addStub stub)

private theorem carries_addMapping :
    Carries state request.asksToAddStub (request.addMapping state) := by
  refine .read fun definition _ => .read fun stub _ => ?_
  exact .change rfl created_success

def asksToReplaceStub (request : AdminRequest) (id : String) : Option ServerOperation := do
  let id ← (readId id).toOption
  let definition ← (request.readBody HttpStubDefinition.ofJson).toOption
  let stub ← (AdminFault.ofState (definition.compile request.fresh)).toOption
  return .http (.replaceStub { stub with id })

private theorem carries_replaceMapping (id : String) :
    Carries state (request.asksToReplaceStub id) (request.replaceMapping state id) := by
  refine .read fun id _ => .read fun definition _ => .read fun stub _ => ?_
  exact .change rfl shown_success

def asksToRemoveStub (id : String) : Option ServerOperation := do
  return .http (.removeStub (← (readId id).toOption))

private theorem carries_removeMapping (id : String) :
    Carries state (asksToRemoveStub id) (removeMapping state id) := by
  refine .read fun id _ => ?_
  exact .changeWith (fun _ => { status := 204 }) rfl fun _ => done_success

def asksToSetScenario (request : AdminRequest) (name : String) : Option ServerOperation := do
  match ← request.readScenarioState.toOption with
  | some value => return .http (.setScenarioState name value)
  | none => return .http (.resetScenario name)

private theorem carries_setScenario (name : String) :
    Carries state (request.asksToSetScenario name) (request.setScenario state name) := by
  refine .read fun value _ => ?_
  cases value with
  | none => exact .change rfl done_success
  | some value => exact .change rfl done_success

def asksToAddMessageStub (request : AdminRequest) : Option ServerOperation := do
  let definition ← (request.readBody MessageStubDefinition.ofJson).toOption
  let stub ← (AdminFault.ofState (definition.compile request.fresh)).toOption
  return .addMessageStub stub

private theorem carries_addMessageMapping :
    Carries state request.asksToAddMessageStub (request.addMessageMapping state) := by
  refine .read fun definition _ => .read fun stub _ => ?_
  exact .change rfl created_success

def asksToRemoveMessageStub (id : String) : Option ServerOperation := do
  return .removeMessageStub (← (readId id).toOption)

private theorem carries_removeMessageMapping (id : String) :
    Carries state (asksToRemoveMessageStub id) (removeMessageMapping state id) := by
  refine .read fun id _ => ?_
  exact .changeWith (fun _ => { status := 204 }) rfl fun _ => done_success

def asksToOpenChannel (request : AdminRequest) : Option ServerOperation := do
  let opened ← (request.readBody Http.Request.ofJson).toOption
  return .openChannel { id := request.fresh, request := opened }

private theorem carries_openChannel :
    Carries state request.asksToOpenChannel (request.openChannel state) :=
  .read fun _ _ => ⟨created_success, rfl⟩

def asksToCloseChannel (id : String) : Option ServerOperation := do
  return .closeChannel (← (readId id).toOption)

private theorem carries_closeChannel (id : String) :
    Carries state (asksToCloseChannel id) (closeChannel state id) := by
  refine .read fun id _ => ?_
  exact .changeWith (fun _ => { status := 204 }) rfl fun _ => done_success

def asksToReceiveMessage (request : AdminRequest) (id : String) : Option ServerOperation := do
  return .receiveMessage request.now (← (readId id).toOption) request.body

private theorem carries_receiveMessage (id : String) :
    Carries state (request.asksToReceiveMessage id) (request.receiveMessage state id) := by
  refine .read fun id _ => ?_
  exact .changeWith (fun outcome => { status := 200, body := some (outcomeJson outcome) }) rfl
    fun _ => shown_success

private theorem carries_readMapping (id : String) : Carries state none (readMapping state id) := by
  refine .look fun id => ?_
  cases state.readStub id with
  | none => exact rfl
  | some stub => exact .shown _

/-- What a request asks of a server.  Nothing is asked for by a request that only reads, by one
that cannot be read, and by a method that the route does not know. -/
def asked (request : AdminRequest) (route : AdminRoute) : Option ServerOperation :=
  match route, request.method with
  | .reset, "POST" => some (.http .reset)
  | .mappings, "POST" => request.asksToAddStub
  | .mappings, "DELETE" => some (.http .resetStubs)
  | .mappingsReset, "POST" => some (.http .resetToDefaults)
  | .mappingsRemove, "POST" => do
      return .http (.removeStubsMatching (← request.readRequestPattern.toOption))
  | .mappingsRemoveByMetadata, "POST" => do
      return .http (.removeStubsByMetadata request.now (← request.readPattern.toOption))
  | .mapping id, "PUT" => request.asksToReplaceStub id
  | .mapping id, "DELETE" => asksToRemoveStub id
  | .scenariosReset, "POST" => some (.http .resetScenarios)
  | .scenarioState name, "PUT" => request.asksToSetScenario name
  | .requests, "DELETE" => some .clearRequests
  | .messageMappings, "POST" => request.asksToAddMessageStub
  | .messageMappings, "DELETE" => some .resetMessageStubs
  | .messageMapping id, "DELETE" => asksToRemoveMessageStub id
  | .channels, "POST" => request.asksToOpenChannel
  | .channel id, "DELETE" => asksToCloseChannel id
  | .channelMessages id, "POST" => request.asksToReceiveMessage id
  | _, _ => none

private theorem asked_get (get : request.method = "GET") (route : AdminRoute) :
    request.asked route = none := by
  unfold asked
  split
  all_goals first
    | rfl
    | next other => exact absurd (get.symm.trans other) (by decide)

private theorem asked_eq_none {route : AdminRoute} (unknown : request.handle state route = none) :
    request.asked route = none := by
  unfold asked
  split
  all_goals first
    | rfl
    | next method => simp [handle, method] at unknown

private theorem carries_handle {route : AdminRoute} {result : AdminResult}
    (handled : request.handle state route = some result) :
    Carries state (request.asked route) result := by
  -- The cases are the routes with the methods that they know, in the order of the handler.
  unfold handle at handled
  split at handled
  all_goals cases handled
  · next get => exact asked_get get _ ▸ ⟨shown_success, rfl⟩
  · next posted =>
      simp only [asked, posted]
      exact .done (.http .reset)
  · next get => exact asked_get get _ ▸ .shown _
  · next posted =>
      simp only [asked, posted]
      exact carries_addMapping
  · next deleted =>
      simp only [asked, deleted]
      exact .done (.http .resetStubs)
  · next posted =>
      simp only [asked, posted]
      exact .done (.http .resetToDefaults)
  · next posted =>
      simp only [asked, posted]
      exact .read fun pattern _ => ⟨shown_success, rfl⟩
  · simp only [asked]
    exact .look fun _ => .shown _
  · next posted =>
      simp only [asked, posted]
      exact .read fun pattern _ => ⟨shown_success, rfl⟩
  · next get => exact asked_get get _ ▸ carries_readMapping _
  · next put =>
      simp only [asked, put]
      exact carries_replaceMapping _
  · next deleted =>
      simp only [asked, deleted]
      exact carries_removeMapping _
  · next get => exact asked_get get _ ▸ .shown _
  · next posted =>
      simp only [asked, posted]
      exact .done (.http .resetScenarios)
  · next put =>
      simp only [asked, put]
      exact carries_setScenario _
  · next get => exact asked_get get _ ▸ .shown _
  · next deleted =>
      simp only [asked, deleted]
      exact .done .clearRequests
  · simp only [asked]
    exact .look fun _ => .shown _
  · simp only [asked]
    exact .look fun _ => .shown _
  · next get => exact asked_get get _ ▸ .shown _
  · next get => exact asked_get get _ ▸ .shown _
  · simp only [asked]
    exact .look fun _ => .shown _
  · simp only [asked]
    exact .look fun _ => .shown _
  · next get => exact asked_get get _ ▸ .shown _
  · next posted =>
      simp only [asked, posted]
      exact carries_addMessageMapping
  · next deleted =>
      simp only [asked, deleted]
      exact .done .resetMessageStubs
  · next deleted =>
      simp only [asked, deleted]
      exact carries_removeMessageMapping _
  · next get => exact asked_get get _ ▸ .shown _
  · next posted =>
      simp only [asked, posted]
      exact carries_openChannel
  · next deleted =>
      simp only [asked, deleted]
      exact carries_closeChannel _
  · next posted =>
      simp only [asked, posted]
      exact carries_receiveMessage _

end AdminRequest

namespace ServerState

variable {state : ServerState}

private theorem written_asked (numbered : state.Numbered) (asked : Option ServerOperation) :
    (Write.makeAll (asked.elim [] (state.writes Float)) state).2 =
      AdminRequest.wanted state asked := by
  cases asked with
  | none => rfl
  | some operation => exact (allOrNothing_perform numbered operation).written

theorem administrate_cases (state : ServerState) (request : AdminRequest) (route : AdminRoute) :
    (state.administrate request route).2 = AdminRequest.wanted state (request.asked route) ∧
      ((state.administrate request route).1.status ∈ AdminRequest.successes ∨
        (state.administrate request route).1.status ∈ [400, 404, 405, 409] ∧
          (state.administrate request route).2 = state) := by
  rw [administrate]
  cases handled : request.handle state route with
  | none =>
      have refusal : 405 ∈ [400, 404, 405, 409] := by decide
      exact ⟨by rw [AdminRequest.asked_eq_none handled]; rfl, .inr ⟨refusal, rfl⟩⟩
  | some result =>
      have carries := AdminRequest.carries_handle handled
      cases result with
      | error fault =>
          refine ⟨carries.symm, .inr ⟨?_, rfl⟩⟩
          rw [AdminAnswer.status_toResponse]
          exact fault.status_cases
      | ok answered =>
          obtain ⟨success, done⟩ := carries
          refine ⟨done, .inl ?_⟩
          rw [AdminAnswer.status_toResponse]
          exact success

/-- A request to the administration that is answered with the status of a fault, or that only
reads, leaves the server as it was.  This is so although the parts of the server are written one
after the other: what had been written when a step was refused is as it was. -/
theorem refused_unchanged (journalLimit : Option Nat) (nearMissLimit : Nat)
    (history : List ServerOperation) (now : Calendar.Instant) (fresh : Uuid)
    (format : ReportFormat) (incoming : Http.Incoming) {route : AdminRoute}
    (routed : AdminRoute.ofPath? incoming.uri.path = some route) :
    let state := (ofLimits journalLimit nearMissLimit).run Float history
    let request : AdminRequest :=
      { now, fresh, method := incoming.method, body := incoming.body }
    let steps := (request.asked route).elim [] (state.writes Float)
    let handled := state.handle now fresh format incoming
    ∃ response, handled.1 = .ok response ∧ handled.2 = (Write.makeAll steps state).2 ∧
      (response.status ∈ [400, 404, 405, 409] ∨ incoming.method = "GET" →
        handled.2 = state) := by
  intro state request steps handled
  have numbered : state.Numbered := (Numbered.ofLimits journalLimit nearMissLimit).run history
  obtain ⟨wanted, outcome⟩ := state.administrate_cases request route
  have answered : handled = (.ok (state.administrate request route).1,
      (state.administrate request route).2) := by
    simp only [handled, handle, routed]
    rfl
  refine ⟨_, congrArg Prod.fst answered, ?_, ?_⟩
  · rw [written_asked numbered, answered, wanted]
  · rw [answered]
    rintro (failure | get)
    · rcases outcome with success | ⟨-, unchanged⟩
      · exact absurd success (AdminRequest.not_success _ failure)
      · exact unchanged
    · rw [wanted, AdminRequest.asked_get get]
      rfl

theorem refused_unchanged_missing :
    let state := (ofLimits none 3).run Float [.http (.addStub { id := .nil })]
    let other := "00000000-0000-0000-0000-000000000001"
    let uri : Http.Uri := ⟨none, none, some ("/__admin/mappings/" ++ other)⟩
    let incoming : Http.Incoming := { method := "DELETE", uri, headers := [], body := [] }
    let handled := state.handle ⟨0, 0⟩ .nil .plain incoming
    ∃ response, handled.1 = .ok response ∧ response.status = 404 ∧ handled.2 = state := by
  intro state other uri incoming handled
  obtain ⟨response, answered, -, unchanged⟩ :=
    refused_unchanged none 3 [.http (.addStub { id := .nil })] ⟨0, 0⟩ .nil .plain incoming
      (show AdminRoute.ofPath? uri.path = some (.mapping other) by decide)
  have status : response.status = 404 := by
    have answer : handled.1.toOption.map Http.Response.status = some 404 := by decide +kernel
    rw [answered] at answer
    exact Option.some.inj answer
  exact ⟨response, answered, status, unchanged (.inl (by simp [status]))⟩

end ServerState

end ServiceStub
