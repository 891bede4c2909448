import ServiceStub.Proofs.Server.Defaults
import ServiceStub.Proofs.Server.Traffic
import Mathlib.Data.List.DropRight

/-!
The journals and the listeners after a whole run.  A journal holds the latest of the events since
it was cleared, and a listener was told everything since it was registered.
-/

namespace ServiceStub

namespace Journal

variable {E : Type}

/-- The last events, as many as a limit allows. -/
def latest (limit : Option Nat) (events : List E) : List E := limit.elim events events.rtake

private theorem rtake_rtake_concat (events : List E) (event : E) (limit : Nat) :
    (events.rtake limit ++ [event]).rtake limit = (events ++ [event]).rtake limit := by
  cases limit with
  | zero => rw [List.rtake_zero, List.rtake_zero]
  | succ limit =>
      have fewer : (events.rtake (limit + 1)).rtake limit = events.rtake limit := by
        simp only [List.rtake, List.drop_drop, List.length_drop]
        congr 1
        omega
      rw [List.rtake_concat_succ, List.rtake_concat_succ, fewer]

private theorem record_latest (limit : Option Nat) (events : List E) (event : E) :
    (⟨limit, latest limit events⟩ : Journal E).record event =
      ⟨limit, latest limit (events ++ [event])⟩ := by
  cases limit with
  | none => rfl
  | some limit => exact congrArg (Journal.mk (some limit)) (rtake_rtake_concat events event limit)

private theorem latest_nil (limit : Option Nat) : latest limit ([] : List E) = [] := by
  cases limit with
  | none => rfl
  | some limit => exact List.rtake_nil limit

end Journal

open Journal (latest)

/-- Which request was answered, by which stub and with which response, and whether a scenario
moved. -/
structure ServeEvent.Tells {R : Type} (event : ServeEvent) (request : Http.Request)
    (outcome : ServeOutcome R) : Prop where
  request : event.request = request
  stub : event.stub = outcome.stub?.map HttpStub.id
  response : event.response = outcome.stub?.map HttpStub.response
  transition : event.subEvents.filter (·.kind = .scenarioTransition) =
    outcome.transition.toList.map SubEvent.ofTransition

structure MessageEvent.Tells {R : Type} (event : MessageEvent) (channel : Uuid) (body : Bytes)
    (outcome : MessageOutcome R) : Prop where
  channel : event.channel = channel
  body : event.body = Text.ofBytesLossy body
  stub : event.stub = outcome.stub?.map MessageStub.id
  deliveries : event.deliveries = outcome.deliveries.map Delivery.channel

def Exchange.Told {R : Type} : Exchange R → Prop
  | .request asked outcome => outcome.event.Tells asked outcome
  | .message channel body outcome => outcome.event.Tells channel body outcome

namespace ServerOperation

def clearsRequests : ServerOperation → Bool
  | .http .reset => true
  | .http .resetToDefaults => true
  | .clearRequests => true
  | _ => false

def clearsMessages : ServerOperation → Bool
  | .http .reset => true
  | .http .resetToDefaults => true
  | _ => false

end ServerOperation

namespace ServerState

section Histories

variable (R : Type) [Scalar R]

/-- What came in since the last operation that clears, or since the start. -/
def exchangesSince (clears : ServerOperation → Bool) (state : ServerState)
    (history : List ServerOperation) : List (Exchange R) :=
  (state.run R (history.rdropWhile fun operation => !clears operation)).exchanges R
    (history.rtakeWhile fun operation => !clears operation)

/-- What each listener of a history is told, the first registered one first. -/
def hearings (state : ServerState) : List ServerOperation → List (List Notification)
  | [] => []
  | .listen :: later =>
      (exchanges R state.listen later).map Exchange.notification :: hearings state.listen later
  | operation :: later => hearings (state.perform R operation) later

end Histories

variable {R : Type} [Scalar R] {state : ServerState}

private theorem exchanges_append (state : ServerState) (earlier later : List ServerOperation) :
    state.exchanges R (earlier ++ later) =
      state.exchanges R earlier ++ (state.run R earlier).exchanges R later := by
  induction earlier generalizing state with
  | nil => rfl
  | cons operation rest induction =>
      rw [List.cons_append, exchanges, induction, exchanges, List.append_assoc]
      rfl

private theorem exchangesSince_concat (clears : ServerOperation → Bool) (state : ServerState)
    (history : List ServerOperation) (operation : ServerOperation) :
    state.exchangesSince R clears (history ++ [operation]) =
      if clears operation then []
      else state.exchangesSince R clears history ++
        ((state.run R history).exchange? R operation).toList := by
  rw [exchangesSince, List.rdropWhile_concat, List.rtakeWhile_concat]
  cases clears operation with
  | true => rfl
  | false =>
      rw [Bool.not_false, if_pos rfl, if_pos rfl, if_neg Bool.false_ne_true, exchanges_append,
        ← run_append, List.rdropWhile_append_rtakeWhile]
      simp only [exchanges, List.append_nil]
      rfl

private theorem exchange?_of_clearsRequests {operation : ServerOperation}
    (clears : operation.clearsRequests) : state.exchange? R operation = none := by
  revert clears
  fun_cases ServerOperation.clearsRequests operation
  all_goals simp [exchange?]

private theorem clearsRequests_of_clearsMessages {operation : ServerOperation}
    (clears : operation.clearsMessages) : operation.clearsRequests := by
  revert clears
  fun_cases ServerOperation.clearsMessages operation
  all_goals simp [ServerOperation.clearsRequests]

private theorem requests_adjust (traffic : Traffic) (operation : ServerOperation) :
    (traffic.adjust operation).requests =
      if operation.clearsRequests then traffic.requests.clear else traffic.requests := by
  fun_cases Traffic.adjust traffic operation
  all_goals simp_all [Traffic.clearJournals, ServerOperation.clearsRequests]

private theorem messages_adjust (traffic : Traffic) (operation : ServerOperation) :
    (traffic.adjust operation).messages =
      if operation.clearsMessages then traffic.messages.clear else traffic.messages := by
  fun_cases Traffic.adjust traffic operation
  all_goals simp_all [Traffic.clearJournals, ServerOperation.clearsMessages]

private theorem tells_serve (now : Calendar.Instant) (state : ServerState)
    (request : Http.Request) :
    (state.serve now request : ServeOutcome R × ServerState).1.event.Tells request
      (state.serve now request : ServeOutcome R × ServerState).1 := by
  simp only [serve]
  split
  · next resolution scenarios _ =>
      refine ⟨rfl, rfl, rfl, ?_⟩
      cases resolution.transition with
      | none => rfl
      | some transition => rfl
  · exact ⟨rfl, rfl, rfl, rfl⟩

private theorem told_of_exchange? {operation : ServerOperation} {exchange : Exchange R}
    (came : state.exchange? R operation = some exchange) : exchange.Told := by
  obtain ⟨now, request, rfl, rfl⟩ | ⟨now, channel, body, outcome, after, rfl, received, rfl⟩ :=
    exists_of_exchange? came
  · exact tells_serve now state request
  · have told := (received_of_ok received).event
    exact ⟨congrArg MessageEvent.channel told, congrArg MessageEvent.body told,
      congrArg MessageEvent.stub told, congrArg MessageEvent.deliveries told⟩

private theorem isSome_exchange?_receiveMessage (now : Calendar.Instant) (channel : Uuid)
    (body : Bytes) :
    (state.exchange? R (.receiveMessage now channel body)).isSome ↔
      ∃ opened ∈ state.channels.toList, opened.id = channel := by
  have known : (state.channels.find? channel).isSome ↔
      ∃ opened ∈ state.channels.toList, opened.id = channel := by simp [Channels.find?]
  rw [← known, exchange?]
  cases found : state.channels.find? channel with
  | none => simp [receiveMessage_of_closed found]
  | some opened =>
      obtain ⟨outcome, after, received⟩ : ∃ (outcome : MessageOutcome R) (after : ServerState),
          state.receiveMessage now channel body = .ok (outcome, after) := exists_of_opened found
      simp [received]

private theorem journal_run {E : Type} (journal : Traffic → Journal E)
    {event? : Exchange R → Option E} {clears : ServerOperation → Bool} {limit : Option Nat}
    (logged : ∀ (traffic : Traffic) (exchange : Exchange R),
      journal (traffic.log exchange) =
        (event? exchange).elim (journal traffic) (journal traffic).record)
    (adjusted : ∀ (traffic : Traffic) (operation : ServerOperation),
      journal (traffic.adjust operation) =
        if clears operation then (journal traffic).clear else journal traffic)
    (silent : ∀ (state : ServerState) (operation : ServerOperation),
      clears operation → state.exchange? R operation = none)
    (fresh : journal state.traffic = ⟨limit, []⟩) (history : List ServerOperation) :
    journal (state.run R history).traffic =
      ⟨limit, latest limit ((state.exchangesSince R clears history).filterMap event?)⟩ := by
  induction history using List.reverseRecOn with
  | nil => exact fresh.trans (congrArg (Journal.mk limit) (Journal.latest_nil limit).symm)
  | append_singleton history operation induction =>
      rw [run_concat, traffic_perform, exchangesSince_concat]
      cases came : (state.run R history).exchange? R operation with
      | none =>
          simp only [Option.elim_none, adjusted, induction, Option.toList_none, List.append_nil]
          split
          · exact congrArg (Journal.mk limit) (Journal.latest_nil limit).symm
          · rfl
      | some exchange =>
          have stays : ¬ clears operation := fun cleared => by
            rw [silent _ _ cleared] at came
            cases came
          simp only [Option.elim_some, logged, induction, if_neg stays, Option.toList_some,
            List.filterMap_append]
          cases event : event? exchange with
          | none => simp [event]
          | some event' => simp [event, Journal.record_latest]

private theorem requests_run (journalLimit : Option Nat) (nearMissLimit : Nat)
    (history : List ServerOperation) :
    ((ofLimits journalLimit nearMissLimit).run R history).requests =
      ⟨journalLimit, latest journalLimit
        (((ofLimits journalLimit nearMissLimit).exchangesSince R ServerOperation.clearsRequests
          history).filterMap Exchange.serveEvent?)⟩ :=
  journal_run Traffic.requests (fun _ _ => rfl) requests_adjust
    (fun _ _ => exchange?_of_clearsRequests) rfl history

private theorem messages_run (journalLimit : Option Nat) (nearMissLimit : Nat)
    (history : List ServerOperation) :
    ((ofLimits journalLimit nearMissLimit).run R history).messages =
      ⟨journalLimit, latest journalLimit
        (((ofLimits journalLimit nearMissLimit).exchangesSince R ServerOperation.clearsMessages
          history).filterMap Exchange.messageEvent?)⟩ :=
  journal_run Traffic.messages (fun _ _ => rfl) messages_adjust
    (fun _ _ clears => exchange?_of_clearsRequests (clearsRequests_of_clearsMessages clears)) rfl
    history

/-- A listener is told all that comes in from now on, and so is each one that is registered
later. -/
theorem received_run (state : ServerState) (history : List ServerOperation) :
    (state.run R history).listeners.map Listener.received =
      state.listeners.map (fun listener =>
          listener.received ++ (state.exchanges R history).map Exchange.notification) ++
        state.hearings R history := by
  fun_induction hearings R state history with
  | case1 state => simp [exchanges, run]
  | case2 state later induction =>
      have joined : state.listen.listeners = state.listeners ++ [⟨[]⟩] := rfl
      have silent : state.exchanges R (.listen :: later) = state.listen.exchanges R later := rfl
      rw [silent, run_cons, show state.perform R .listen = state.listen from rfl, induction, joined]
      simp
  | case3 state operation later other induction =>
      have logged := congrArg Traffic.listeners (traffic_perform (R := R) state operation)
      rw [run_cons, induction, exchanges]
      congr 1
      cases came : state.exchange? R operation with
      | none =>
          rw [came, Option.elim_none, Traffic.listeners_adjust _ other] at logged
          rw [show (state.perform R operation).listeners = state.listeners from logged]
          rfl
      | some exchange =>
          rw [came, Option.elim_some] at logged
          rw [show (state.perform R operation).listeners = _ from logged]
          simp [Traffic.log, traffic]

private theorem told_of_mem_exchanges {history : List ServerOperation} {exchange : Exchange R}
    (came : exchange ∈ state.exchanges R history) : exchange.Told := by
  induction history generalizing state with
  | nil => cases came
  | cons operation later induction =>
      rcases List.mem_append.mp came with came | came
      · exact told_of_exchange? (Option.mem_toList.mp came)
      · exact induction came

/-- The journals hold the latest of the events since they were cleared, as many as their limit
allows, and each event tells what came in and how it was answered.  Whatever the limit is, every
listener was told all that came in since it was registered. -/
theorem records_tell_exchanges (R : Type) [Scalar R] (journalLimit : Option Nat)
    (nearMissLimit : Nat) (history : List ServerOperation) :
    let start := ofLimits journalLimit nearMissLimit
    let state := start.run R history
    let unlogged := (ofLimits (some 0) nearMissLimit).run R history
    state.requests.entries =
        latest journalLimit
          ((start.exchangesSince R ServerOperation.clearsRequests history).filterMap
            Exchange.serveEvent?) ∧
      state.unmatchedRequests = state.requests.entries.filter (·.stub = none) ∧
      state.messages.entries =
        latest journalLimit
          ((start.exchangesSince R ServerOperation.clearsMessages history).filterMap
            Exchange.messageEvent?) ∧
      (∀ exchange ∈ start.exchanges R history, exchange.Told) ∧
      (∀ now channel body, (state.exchange? R (.receiveMessage now channel body)).isSome ↔
        ∃ opened ∈ state.channels.toList, opened.id = channel) ∧
      unlogged.requests.entries = [] ∧ unlogged.messages.entries = [] ∧
      state.listeners.map Listener.received = start.hearings R history := by
  intro start state unlogged
  refine ⟨congrArg Journal.entries (requests_run journalLimit nearMissLimit history), ?_,
    congrArg Journal.entries (messages_run journalLimit nearMissLimit history),
    fun _ => told_of_mem_exchanges, isSome_exchange?_receiveMessage, ?_, ?_, ?_⟩
  · exact List.filter_congr fun event _ => by
      cases matched : event.matched <;> simp [ServeEvent.wasMatched, ServeEvent.stub, matched]
  · rw [show unlogged.requests = _ from requests_run (some 0) nearMissLimit history]
    exact List.rtake_zero _
  · rw [show unlogged.messages = _ from messages_run (some 0) nearMissLimit history]
    exact List.rtake_zero _
  · exact received_run start history

/-- A scenario moves with the first of two requests, and the journal has room for one. -/
theorem records_tell_exchanges_flow :
    let now : Calendar.Instant := ⟨0, 0⟩
    let request : Http.Request := { method := "GET", url := "/" }
    let stub : HttpStub :=
      { id := ⟨1⟩, scenario := some { name := "flow", newState := some "Done" } }
    let start := ofLimits (some 1) 3
    let history : List ServerOperation :=
      [.http (.addStub stub), .listen, .http (.serve now request), .http (.serve now request)]
    let first := (start.run Rat [.http (.addStub stub), .listen]).serve now request
    let exchange : Exchange Rat := .request request first.1
    exchange ∈ start.exchanges Rat history ∧ exchange.Told ∧
      first.1.transition = some ⟨"flow", "Started", "Done"⟩ ∧
      (start.run Rat history).requests.entries.length = 1 := by
  intro now request stub start history first exchange
  have came : exchange ∈ start.exchanges Rat history :=
    List.mem_cons_self
  exact ⟨came, (records_tell_exchanges Rat (some 1) 3 history).2.2.2.1 exchange came,
    by decide +kernel, by decide +kernel⟩

end ServerState

end ServiceStub
