import ServiceStub.Proofs.Server.Steps
import ServiceStub.Proofs.Stub.Renumbering

/-!
Servers that answer alike.  They may have numbered their stubs differently, but whatever concerns
requests and scenarios gets the same answers from both.
-/

namespace ServiceStub

inductive HttpAnswer (R : Type) where
  | done
  | refused (error : StateError)
  | removed (stubs : List HttpStub)
  | served (outcome : ServeOutcome R)

def HttpAnswer.ofAttempt {R Result : Type} (answer : Result → HttpAnswer R) :
    Except StateError Result → HttpAnswer R
  | .ok result => answer result
  | .error error => .refused error

namespace ServerState

section Answers

variable (R : Type) [Scalar R]

def answerHttp (state : ServerState) : HttpOperation → HttpAnswer R
  | .addStub stub => .ofAttempt (fun _ => .done) (state.addStub stub)
  | .addDefaultStub stub => .ofAttempt (fun _ => .done) (state.addDefaultStub stub)
  | .replaceStub stub => .ofAttempt (fun _ => .done) (state.replaceStub stub)
  | .removeStub id => .ofAttempt (fun removed => .removed [removed.1]) (state.removeStub id)
  | .removeStubsMatching pattern => .removed (state.removeStubsMatching pattern).1
  | .removeStubsByMetadata now pattern => .removed (state.removeStubsByMetadata R now pattern).1
  | .resetStubs => .done
  | .reset => .done
  | .resetToDefaults => .done
  | .serve now request => .served (state.serve now request).1
  | .setScenarioState name value =>
      .ofAttempt (fun _ => .done) (state.setScenarioState name value)
  | .resetScenario name => .ofAttempt (fun _ => .done) (state.resetScenario name)
  | .resetScenarios => .done

def answersHttp (state : ServerState) : List HttpOperation → List (HttpAnswer R)
  | [] => []
  | operation :: rest =>
      state.answerHttp R operation :: answersHttp (state.performHttp R operation) rest

/-- All that can be seen of two servers as far as requests are concerned is the same. -/
structure SeenAlike (left right : ServerState) : Prop where
  stubs : left.stubs.toList = right.stubs.toList
  messageStubs : left.messageStubs.toList = right.messageStubs.toList
  scenarios : left.scenarios.all = right.scenarios.all
  requests : left.requests = right.requests
  nearMisses : ∀ now request, (left.nearMissesForRequest now request : List (NearMiss HttpStub R)) =
    right.nearMissesForRequest now request
  patternNearMisses : ∀ now pattern,
    (left.nearMissesForPattern now pattern : List (NearMiss Http.Request R)) =
      right.nearMissesForPattern now pattern

end Answers

theorem restoreDefault_eq (state : ServerState) (stub : HttpStub) :
    state.restoreDefault stub = (state.addStub stub).toOption.getD state := by
  rw [restoreDefault]
  cases state.addStub stub <;> rfl

/-- Servers that differ in the numbers of their stubs, and in what concerns messages only. -/
structure Alike (left right : ServerState) : Prop where
  stubs : left.stubs.Renumbered right.stubs
  messageStubs : left.messageStubs.Renumbered right.messageStubs
  scenarios : left.scenarios = right.scenarios
  requests : left.requests = right.requests
  nearMissLimit : left.nearMissLimit = right.nearMissLimit
  defaults : left.defaults = right.defaults

namespace Alike

variable {R : Type} [Scalar R] {left right : ServerState}

theorem seenAlike (alike : left.Alike right) : SeenAlike R left right where
  stubs := alike.stubs.toList_eq
  messageStubs := alike.messageStubs.toList_eq
  scenarios := by rw [alike.scenarios]
  requests := alike.requests
  nearMisses now request := by
    rw [nearMissesForRequest, nearMissesForRequest, alike.scenarios, alike.nearMissLimit,
      alike.stubs.nearMisses_eq]
  patternNearMisses now pattern := by
    rw [nearMissesForPattern, nearMissesForPattern, alike.requests, alike.nearMissLimit]

theorem addStub (alike : left.Alike right) (stub : HttpStub) :
    BothOrNeither Alike (left.addStub stub) (right.addStub stub) :=
  (alike.stubs.add stub).bind fun stubs =>
    .done { alike with stubs, scenarios := by rw [alike.scenarios] }

theorem addDefaultStub (alike : left.Alike right) (stub : HttpStub) :
    BothOrNeither Alike (left.addDefaultStub stub) (right.addDefaultStub stub) :=
  (alike.addStub { stub with persistent := true }).bind fun added =>
    .done { added with defaults := by rw [added.defaults] }

theorem replaceStub (alike : left.Alike right) (stub : HttpStub) :
    BothOrNeither Alike (left.replaceStub stub) (right.replaceStub stub) := by
  rw [ServerState.replaceStub, ServerState.replaceStub, alike.stubs.find?_eq]
  cases right.stubs.find? stub.id with
  | none => exact .refused _
  | some previous =>
      exact (alike.stubs.replace stub).bind fun stubs =>
        .done { alike with stubs, scenarios := by rw [alike.scenarios] }

theorem removeStubsWhere (alike : left.Alike right) (condition : HttpStub → Bool) :
    (left.removeStubsWhere condition).1 = (right.removeStubsWhere condition).1 ∧
      (left.removeStubsWhere condition).2.Alike (right.removeStubsWhere condition).2 := by
  obtain ⟨removed, stubs⟩ := alike.stubs.removeWhere condition
  refine ⟨removed, { alike with stubs, scenarios := ?_ }⟩
  simp only [ServerState.removeStubsWhere, removed, alike.scenarios]

theorem removeStub (alike : left.Alike right) (id : Uuid) :
    BothOrNeither (fun left right => left.1 = right.1 ∧ left.2.Alike right.2)
      (left.removeStub id) (right.removeStub id) := by
  rw [ServerState.removeStub, ServerState.removeStub, alike.stubs.find?_eq]
  cases right.stubs.find? id with
  | none => exact .refused _
  | some stub => exact .done ⟨rfl, (alike.removeStubsWhere fun stub => stub.id == id).2⟩

theorem resetMessageStubs (alike : left.Alike right) :
    left.resetMessageStubs.Alike right.resetMessageStubs := by
  obtain ⟨removed, messageStubs⟩ := alike.messageStubs.removeWhere fun _ => true
  refine { alike with messageStubs, scenarios := ?_ }
  simp only [ServerState.resetMessageStubs, removed, alike.scenarios]

theorem reset (alike : left.Alike right) : left.reset.Alike right.reset := by
  have left := (alike.removeStubsWhere fun stub => !stub.persistent).2.resetMessageStubs
  exact { left with
    scenarios := congrArg Scenarios.reset left.scenarios
    requests := congrArg Journal.clear left.requests }

theorem restoreDefaults (alike : left.Alike right) (defaults : List HttpStub) :
    (defaults.foldl restoreDefault left).Alike (defaults.foldl restoreDefault right) := by
  induction defaults generalizing left right with
  | nil => exact alike
  | cons stub rest induction =>
      refine induction ?_
      rw [restoreDefault_eq, restoreDefault_eq]
      exact (alike.addStub stub).getD alike

theorem emptied (leftNumbered : left.Numbered) (rightNumbered : right.Numbered)
    (journalLimit : left.requests.limit = right.requests.limit)
    (nearMissLimit : left.nearMissLimit = right.nearMissLimit)
    (defaults : left.defaults = right.defaults) : left.emptied.Alike right.emptied where
  stubs :=
    { toList_eq := left.emptied_stubs.trans right.emptied_stubs.symm
      left_numbered := leftNumbered.emptied.stubs
      right_numbered := rightNumbered.emptied.stubs }
  messageStubs :=
    { toList_eq := left.emptied_messageStubs.trans right.emptied_messageStubs.symm
      left_numbered := leftNumbered.emptied.messageStubs
      right_numbered := rightNumbered.emptied.messageStubs }
  scenarios := rfl
  requests := by
    show left.requests.clear = right.requests.clear
    rw [Journal.clear, Journal.clear, journalLimit]
  nearMissLimit := nearMissLimit
  defaults := defaults

theorem resetToDefaults (leftNumbered : left.Numbered) (rightNumbered : right.Numbered)
    (journalLimit : left.requests.limit = right.requests.limit)
    (nearMissLimit : left.nearMissLimit = right.nearMissLimit)
    (defaults : left.defaults = right.defaults) :
    left.resetToDefaults.Alike right.resetToDefaults := by
  rw [resetToDefaults_eq, resetToDefaults_eq, defaults]
  exact (emptied leftNumbered rightNumbered journalLimit nearMissLimit defaults).restoreDefaults _

theorem numbered (alike : left.Alike right) : left.Numbered ∧ right.Numbered :=
  ⟨⟨alike.stubs.left_numbered, alike.messageStubs.left_numbered⟩,
    ⟨alike.stubs.right_numbered, alike.messageStubs.right_numbered⟩⟩

theorem serve (alike : left.Alike right) (now : Calendar.Instant) (request : Http.Request) :
    (left.serve now request : ServeOutcome R × ServerState).1 = (right.serve now request).1 ∧
      (left.serve now request : ServeOutcome R × ServerState).2.Alike
        (right.serve now request : ServeOutcome R × ServerState).2 := by
  have missed := (alike.seenAlike (R := R)).nearMisses now request
  rw [ServerState.serve, ServerState.serve, alike.stubs.resolve_eq, alike.scenarios]
  cases (right.stubs.resolve now right.scenarios request :
      Option (Resolution HttpStub R) × Scenarios) with
  | mk chosen scenarios =>
      cases chosen with
      | none =>
          dsimp only [notify]
          refine ⟨by rw [missed], { alike with scenarios := rfl, requests := ?_ }⟩
          simp only [missed, alike.requests]
      | some resolution =>
          dsimp only [notify]
          exact ⟨rfl, { alike with scenarios := rfl, requests := by rw [alike.requests] }⟩

theorem setScenarioState (alike : left.Alike right) (name value : String) :
    BothOrNeither Alike (left.setScenarioState name value)
      (right.setScenarioState name value) := by
  rw [ServerState.setScenarioState, ServerState.setScenarioState, alike.scenarios]
  cases right.scenarios.setState name value with
  | error error => exact .refused error
  | ok scenarios => exact .done { alike with scenarios := rfl }

omit [Scalar R] in
theorem attempt (alike : left.Alike right)
    {leftAttempt rightAttempt : Except StateError ServerState}
    (attempts : BothOrNeither Alike leftAttempt rightAttempt) :
    HttpAnswer.ofAttempt (fun _ => (.done : HttpAnswer R)) leftAttempt =
        .ofAttempt (fun _ => .done) rightAttempt ∧
      (leftAttempt.toOption.getD left).Alike (rightAttempt.toOption.getD right) := by
  refine ⟨?_, attempts.getD alike⟩
  cases attempts with
  | refused _ => rfl
  | done _ => rfl

omit [Scalar R] in
private theorem attempt_removal (alike : left.Alike right)
    {leftAttempt rightAttempt : Except StateError (HttpStub × ServerState)}
    (attempts : BothOrNeither (fun left right => left.1 = right.1 ∧ left.2.Alike right.2)
      leftAttempt rightAttempt) :
    HttpAnswer.ofAttempt (fun removed => (.removed [removed.1] : HttpAnswer R)) leftAttempt =
        .ofAttempt (fun removed => .removed [removed.1]) rightAttempt ∧
      ((leftAttempt.map Prod.snd).toOption.getD left).Alike
        ((rightAttempt.map Prod.snd).toOption.getD right) := by
  cases attempts with
  | refused _ => exact ⟨rfl, alike⟩
  | done results =>
      refine ⟨?_, results.2⟩
      simp only [HttpAnswer.ofAttempt, results.1]

theorem performHttp (alike : left.Alike right) (operation : HttpOperation) :
    left.answerHttp R operation = right.answerHttp R operation ∧
      (left.performHttp R operation).Alike (right.performHttp R operation) := by
  cases operation with
  | addStub stub => exact alike.attempt (alike.addStub stub)
  | addDefaultStub stub => exact alike.attempt (alike.addDefaultStub stub)
  | replaceStub stub => exact alike.attempt (alike.replaceStub stub)
  | removeStub id => exact alike.attempt_removal (alike.removeStub id)
  | removeStubsMatching pattern =>
      obtain ⟨removed, remaining⟩ := alike.removeStubsWhere fun stub => stub.request == pattern
      exact ⟨congrArg HttpAnswer.removed removed, remaining⟩
  | removeStubsByMetadata now pattern =>
      obtain ⟨removed, remaining⟩ := alike.removeStubsWhere (metadataMatch R now pattern)
      exact ⟨congrArg HttpAnswer.removed removed, remaining⟩
  | resetStubs => exact ⟨rfl, (alike.removeStubsWhere _).2⟩
  | reset => exact ⟨rfl, alike.reset⟩
  | resetToDefaults =>
      refine ⟨rfl, resetToDefaults alike.numbered.1 alike.numbered.2 ?_ alike.nearMissLimit
        alike.defaults⟩
      rw [alike.requests]
  | serve now request =>
      obtain ⟨outcome, after⟩ := alike.serve (R := R) now request
      exact ⟨congrArg HttpAnswer.served outcome, after⟩
  | setScenarioState name value => exact alike.attempt (alike.setScenarioState name value)
  | resetScenario name => exact alike.attempt (alike.setScenarioState name Scenario.started)
  | resetScenarios =>
      exact ⟨rfl, { alike with scenarios := congrArg Scenarios.reset alike.scenarios }⟩

theorem runHttp (alike : left.Alike right) (history : List HttpOperation) :
    left.answersHttp R history = right.answersHttp R history ∧
      (left.runHttp R history).Alike (right.runHttp R history) := by
  induction history generalizing left right with
  | nil => exact ⟨rfl, alike⟩
  | cons operation rest induction =>
      obtain ⟨answer, after⟩ := alike.performHttp (R := R) operation
      obtain ⟨answers, last⟩ := induction after
      exact ⟨by rw [answersHttp, answersHttp, answer, answers], last⟩

end Alike

end ServerState

end ServiceStub
