import ServiceStub.Proofs.Server.Defaults
import ServiceStub.Proofs.Server.Traffic

/-! Which channels are open after a whole run, and where the answers to a message go. -/

namespace ServiceStub

namespace ServerOperation

def concerns (id : Uuid) : ServerOperation → Bool
  | .openChannel channel => id == channel.id
  | .closeChannel other => id == other
  | _ => false

def opens : ServerOperation → List Channel
  | .openChannel channel => [channel]
  | _ => []

end ServerOperation

open ServerOperation (concerns)

/-- The channels that a history opened and that nothing concerned afterwards, the one first that
was opened first. -/
def stillOpen : List ServerOperation → List Channel
  | [] => []
  | operation :: later =>
      operation.opens.filter (fun channel => !later.any (concerns channel.id)) ++ stillOpen later

private theorem concerned_of_opens {operation : ServerOperation} {channel : Channel}
    (opened : channel ∈ operation.opens) : operation.concerns channel.id := by
  revert opened
  fun_cases ServerOperation.opens operation with
  | case1 other =>
      intro same
      rw [List.mem_singleton.mp same]
      exact beq_self_eq_true other.id
  | case2 => simp

private theorem concerned_of_stillOpen {history : List ServerOperation} {channel : Channel}
    (opened : channel ∈ stillOpen history) : history.any (concerns channel.id) := by
  induction history with
  | nil => cases opened
  | cons operation later induction =>
      rw [List.any_cons, Bool.or_eq_true]
      rcases List.mem_append.mp opened with opened | opened
      · exact .inl (concerned_of_opens (List.mem_of_mem_filter opened))
      · exact .inr (induction opened)

private theorem nodup_opens (operation : ServerOperation) :
    (operation.opens.map Channel.id).Nodup := by
  fun_cases ServerOperation.opens operation
  · exact List.nodup_singleton _
  · exact List.nodup_nil

private theorem nodup_stillOpen (history : List ServerOperation) :
    ((stillOpen history).map Channel.id).Nodup := by
  induction history with
  | nil => exact List.nodup_nil
  | cons operation later induction =>
      rw [stillOpen, List.map_append]
      refine List.nodup_append.mpr ⟨?_, induction, ?_⟩
      · exact (nodup_opens operation).sublist (List.filter_sublist.map Channel.id)
      · intro id opened other reopened same
        obtain ⟨channel, member, rfl⟩ := List.mem_map.mp opened
        obtain ⟨again, againMember, rfl⟩ := List.mem_map.mp reopened
        have alone := (List.mem_filter.mp member).2
        rw [same, concerned_of_stillOpen againMember] at alone
        cases alone

inductive Carried (R : Type) [Scalar R] (now : Calendar.Instant) (origin : Channel)
    (opened : List Channel) : MessageAction → List Delivery → Prop where
  | reply (body : String) : Carried R now origin opened (.reply body) [⟨origin.id, body⟩]
  | broadcast {pattern : RequestPattern} {body : String} {targets : List Channel}
      (inOrder : targets.Sublist opened)
      (matching : ∀ channel ∈ opened,
        channel ∈ targets ↔ (pattern.evaluate now channel.request : MatchReport R).isExact)
      (once : (targets.map Channel.id).Nodup) :
      Carried R now origin opened (.broadcast pattern body)
        (targets.map fun channel => ⟨channel.id, body⟩)

section Deliveries

variable {R : Type} [Scalar R] {now : Calendar.Instant} {origin : Channel} {channels : Channels}

private theorem carried_broadcast (distinct : (channels.toList.map Channel.id).Nodup)
    (pattern : RequestPattern) (body : String) :
    Carried R now origin channels.toList (.broadcast pattern body)
      ((channels.matching R now pattern).map fun channel => ⟨channel.id, body⟩) := by
  refine .broadcast List.filter_sublist (fun channel opened => ?_)
    (distinct.sublist (List.filter_sublist.map Channel.id))
  exact List.mem_filter.trans (and_iff_right opened)

/-- The deliveries fall into groups, one for each action in order. -/
theorem exists_groups (now : Calendar.Instant) (origin : Channel)
    (distinct : (channels.toList.map Channel.id).Nodup) (actions : List MessageAction) :
    ∃ groups, Delivery.ofActions R now origin channels actions = groups.flatten ∧
      List.Forall₂ (Carried R now origin channels.toList) actions groups := by
  induction actions with
  | nil => exact ⟨[], rfl, .nil⟩
  | cons action rest induction =>
      obtain ⟨groups, flattened, carried⟩ := induction
      cases action with
      | reply body =>
          exact ⟨[⟨origin.id, body⟩] :: groups, congrArg (_ ++ ·) flattened,
            .cons (.reply body) carried⟩
      | broadcast pattern body =>
          exact ⟨_ :: groups, congrArg (_ ++ ·) flattened,
            .cons (carried_broadcast distinct pattern body) carried⟩

private theorem Carried.addresses {opened : List Channel} {action : MessageAction}
    {deliveries : List Delivery} (carried : Carried R now origin opened action deliveries)
    (known : origin ∈ opened) :
    ∀ delivery ∈ deliveries, delivery.channel ∈ opened.map Channel.id := by
  intro delivery member
  cases carried with
  | reply body =>
      rw [List.mem_singleton.mp member]
      exact List.mem_map_of_mem known
  | broadcast inOrder matching once =>
      obtain ⟨channel, target, rfl⟩ := List.mem_map.mp member
      exact List.mem_map_of_mem (inOrder.subset target)

private theorem addresses_of_groups {opened : List Channel} {actions : List MessageAction}
    {groups : List (List Delivery)}
    (carried : List.Forall₂ (Carried R now origin opened) actions groups)
    (known : origin ∈ opened) :
    ∀ delivery ∈ groups.flatten, delivery.channel ∈ opened.map Channel.id := by
  induction carried with
  | nil => simp
  | cons first others induction =>
      intro delivery member
      rcases List.mem_append.mp member with member | member
      · exact first.addresses known delivery member
      · exact induction delivery member

end Deliveries

namespace ServerState

variable {R : Type} [Scalar R] {state : ServerState}

private theorem channels_adjust (traffic : Traffic) (operation : ServerOperation) :
    (traffic.adjust operation).channels.toList =
      traffic.channels.toList.filter (fun channel => !operation.concerns channel.id) ++
        operation.opens := by
  fun_cases Traffic.adjust traffic operation with
  | case4 channel => rfl
  | case5 id => exact (List.append_nil _).symm
  | _ => simp_all [Traffic.clearJournals, concerns, ServerOperation.opens]

private theorem channels_perform (state : ServerState) (operation : ServerOperation) :
    (state.perform R operation).channels.toList =
      state.channels.toList.filter (fun channel => !operation.concerns channel.id) ++
        operation.opens := by
  have logged := congrArg Traffic.channels (traffic_perform (R := R) state operation)
  rw [show (state.perform R operation).channels = _ from logged]
  cases came : state.exchange? R operation with
  | none => exact channels_adjust state.traffic operation
  | some exchange =>
      have apart : operation.opens = [] ∧ ∀ id, operation.concerns id = false := by
        obtain ⟨now, request, rfl, -⟩ | ⟨now, channel, body, outcome, after, rfl, -⟩ :=
          exists_of_exchange? came
        · exact ⟨rfl, fun _ => rfl⟩
        · exact ⟨rfl, fun _ => rfl⟩
      simp [apart.1, apart.2, Traffic.log, traffic]

private theorem channels_run (state : ServerState) (history : List ServerOperation) :
    (state.run R history).channels.toList =
      state.channels.toList.filter (fun channel => !history.any (concerns channel.id)) ++
        stillOpen history := by
  induction history generalizing state with
  | nil => simp [run, stillOpen]
  | cons operation later induction =>
      rw [run_cons, induction, channels_perform, List.filter_append, List.filter_filter,
        List.append_assoc]
      congr 1
      exact List.filter_congr fun channel _ => by rw [List.any_cons, Bool.not_or, Bool.and_comm]

private theorem channels_run_ofLimits (journalLimit : Option Nat) (nearMissLimit : Nat)
    (history : List ServerOperation) :
    ((ofLimits journalLimit nearMissLimit).run R history).channels.toList = stillOpen history :=
  channels_run (ofLimits journalLimit nearMissLimit) history

private theorem find?_channels_eq_none {id : Uuid} :
    state.channels.find? id = none ↔ id ∉ state.channels.toList.map Channel.id := by
  simp [Channels.find?]

private theorem receiveMessage_isOk_iff {now : Calendar.Instant} {id : Uuid} {body : Bytes} :
    (∃ received : MessageOutcome R × ServerState, state.receiveMessage now id body = .ok received) ↔
      id ∈ state.channels.toList.map Channel.id := by
  constructor
  · rintro ⟨answer, received⟩
    by_contra closed
    rw [receiveMessage_of_closed (find?_channels_eq_none.mpr closed)] at received
    cases received
  · intro opened
    cases known : state.channels.find? id with
    | none => exact absurd opened (find?_channels_eq_none.mp known)
    | some channel =>
        obtain ⟨outcome, after, received⟩ := exists_of_opened (R := R) known
        exact ⟨(outcome, after), received⟩

/-- The channels that are open were opened and not closed since, and a message gets answers on
those only: each action of the stub sends to every channel that it is meant for, once and in the
order of their opening.  A message from elsewhere changes nothing. -/
theorem messages_reach_open_channels (R : Type) [Scalar R] (journalLimit : Option Nat)
    (nearMissLimit : Nat) (history : List ServerOperation) :
    let state := (ofLimits journalLimit nearMissLimit).run R history
    let opened := state.channels.toList
    opened = stillOpen history ∧ (opened.map Channel.id).Nodup ∧
      (∀ now id body,
        (∃ received : MessageOutcome R × ServerState,
            state.receiveMessage now id body = .ok received) ↔ id ∈ opened.map Channel.id) ∧
      (∀ now id body, id ∉ opened.map Channel.id →
        (state.receiveMessage now id body : Except StateError (MessageOutcome R × ServerState)) =
            .error (.channelNotFound id) ∧
          state.perform R (.receiveMessage now id body) = state) ∧
      ∀ now id body stub deliveries transition event after,
        state.receiveMessage now id body =
            .ok ((.matched stub deliveries transition event : MessageOutcome R), after) →
          ∃ origin ∈ opened, origin.id = id ∧
            (∃ groups, deliveries = groups.flatten ∧
              List.Forall₂ (Carried R now origin opened) stub.actions groups) ∧
            (∀ delivery ∈ deliveries, delivery.channel ∈ opened.map Channel.id) ∧
            event.deliveries = deliveries.map Delivery.channel ∧
            after.messages = state.messages.record event := by
  intro state opened
  have ordered : opened = stillOpen history := channels_run_ofLimits ..
  have distinct : (opened.map Channel.id).Nodup := ordered ▸ nodup_stillOpen history
  refine ⟨ordered, distinct, fun _ _ _ => receiveMessage_isOk_iff, ?_, ?_⟩
  · intro now id body closed
    have refused : (state.receiveMessage now id body :
        Except StateError (MessageOutcome R × ServerState)) = .error (.channelNotFound id) :=
      receiveMessage_of_closed (find?_channels_eq_none.mpr closed)
    refine ⟨refused, ?_⟩
    rw [perform, refused]
    rfl
  · intro now id body stub deliveries transition event after received
    have answered := received_of_ok received
    obtain ⟨origin, known, acted⟩ := answered.opened
    have sent : deliveries = Delivery.ofActions R now origin state.channels stub.actions := acted
    obtain ⟨groups, flattened, carried⟩ :=
      exists_groups (R := R) now origin distinct stub.actions
    have originOpened : origin ∈ opened := List.mem_of_find?_eq_some known
    have addressed := addresses_of_groups carried originOpened
    rw [← flattened, ← sent] at addressed
    exact ⟨origin, originOpened, by simpa using List.find?_some known,
      ⟨groups, sent.trans flattened, carried⟩, addressed,
      congrArg MessageEvent.deliveries answered.event,
      congrArg Traffic.messages answered.traffic⟩

/-- The channel of the message was opened again, so it comes second to a broadcast. -/
theorem messages_reach_open_channels_chat :
    let now : Calendar.Instant := ⟨0, 0⟩
    let chat : Channel := { id := ⟨1⟩, request := { method := "GET", url := "/chat" } }
    let news : Channel := { id := ⟨2⟩, request := { method := "GET", url := "/news" } }
    let stub : MessageStub :=
      { id := ⟨3⟩, actions := [.reply "welcome", .broadcast .any "hello"] }
    let history : List ServerOperation :=
      [.openChannel chat, .openChannel news, .openChannel chat, .addMessageStub stub]
    let state := (ofLimits none 3).run Rat history
    (⟨9⟩ ∉ state.channels.toList.map Channel.id ∧
        state.perform Rat (.receiveMessage now ⟨9⟩ []) = state) ∧
      ∃ stub deliveries transition event after,
        state.receiveMessage now chat.id [] =
            .ok ((.matched stub deliveries transition event : MessageOutcome Rat), after) ∧
          deliveries.map Delivery.channel = [chat.id, news.id, chat.id] ∧
          event.deliveries = deliveries.map Delivery.channel := by
  intro now chat news stub history state
  obtain ⟨-, -, -, elsewhere, matched⟩ := messages_reach_open_channels Rat none 3 history
  have closed : ⟨9⟩ ∉ state.channels.toList.map Channel.id := by decide +kernel
  have sent : (state.receiveMessage now chat.id [] :
      Except StateError (MessageOutcome Rat × ServerState)).toOption.map
        (fun received => received.1.deliveries.map Delivery.channel) =
      some [chat.id, news.id, chat.id] := by decide +kernel
  refine ⟨⟨closed, (elsewhere now ⟨9⟩ [] closed).2⟩, ?_⟩
  cases received : (state.receiveMessage now chat.id [] :
      Except StateError (MessageOutcome Rat × ServerState)) with
  | error error => simp [received, Except.toOption] at sent
  | ok answer =>
      rw [received] at sent
      obtain ⟨outcome, after⟩ := answer
      cases outcome with
      | matched stub deliveries transition event =>
          obtain ⟨_, _, _, _, _, told, _⟩ := matched _ _ _ _ _ _ _ _ received
          exact ⟨stub, deliveries, transition, event, after, rfl, Option.some.inj sent, told⟩
      | unmatched nearMisses event => cases sent

end ServerState

end ServiceStub
