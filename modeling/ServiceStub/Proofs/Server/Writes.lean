import ServiceStub.Proofs.Server.Steps

/-!
Operations that change a server part by part.  A part that is written stays written when a later
step is refused, and yet an operation that is refused leaves the server as it was.
-/

namespace ServiceStub

theorem Channels.erase_of_absent {channels : Channels} {id : Uuid}
    (absent : channels.find? id = none) : channels.erase id = channels := by
  rw [Channels.erase, List.filter_eq_self.mpr]
  intro channel member
  simpa using List.find?_eq_none.mp absent channel member

/-- A step of an operation, which changes a server or is refused. -/
abbrev Write := ServerState → Except StateError ServerState

namespace Write

def always (change : ServerState → ServerState) : Write := fun state => .ok (change state)

def refuse (error : StateError) : Write := fun _ => .error error

def ofPart {Part : Type} (part : ServerState → Part) (put : Part → ServerState → ServerState)
    (change : Part → Except StateError Part) : Write :=
  fun state => (change (part state)).map (put · state)

def ofStubs : (StubStore HttpStub → Except StateError (StubStore HttpStub)) → Write :=
  ofPart ServerState.stubs fun stubs state => { state with stubs }

def ofMessageStubs :
    (StubStore MessageStub → Except StateError (StubStore MessageStub)) → Write :=
  ofPart ServerState.messageStubs fun messageStubs state => { state with messageStubs }

def ofScenarios (change : Scenarios → Scenarios) : Write :=
  always fun state => { state with scenarios := change state.scenarios }

/-- Make the steps one after the other.  The first refusal ends it, and what was written stays. -/
def makeAll : List Write → ServerState → Except StateError Unit × ServerState
  | [], state => (.ok (), state)
  | write :: rest, state =>
      match write state with
      | .ok after => makeAll rest after
      | .error error => (.error error, state)

variable {state : ServerState} {rest : List Write}

private theorem makeAll_ofPart {Part : Type} {part : ServerState → Part}
    {put : Part → ServerState → ServerState} {change : Part → Except StateError Part} {value : Part}
    (changed : change (part state) = .ok value) :
    makeAll (ofPart part put change :: rest) state = makeAll rest (put value state) := by
  rw [makeAll, ofPart, changed]
  rfl

private theorem makeAll_ofPart_refused {Part : Type} {part : ServerState → Part}
    {put : Part → ServerState → ServerState} {change : Part → Except StateError Part}
    {error : StateError} (refused : change (part state) = .error error) :
    makeAll (ofPart part put change :: rest) state = (.error error, state) := by
  rw [makeAll, ofPart, refused]
  rfl

end Write

namespace ServerState

/-- The steps are all made, or one of them is refused and nothing is different. -/
inductive AllOrNothing (steps : List Write) (state after : ServerState) : Prop where
  | all (made : Write.makeAll steps state = (.ok (), after))
  | nothing (error : StateError) (refused : Write.makeAll steps state = (.error error, state))
      (same : after = state)

variable {R : Type} [Scalar R] {state : ServerState}

namespace AllOrNothing

private theorem always (change : ServerState → ServerState) :
    AllOrNothing [.always change] state (change state) :=
  .all rfl

theorem single (write : Write) :
    AllOrNothing [write] state ((write state).toOption.getD state) := by
  cases outcome : write state with
  | ok after => exact .all (by rw [Write.makeAll, outcome]; rfl)
  | error error => exact .nothing error (by rw [Write.makeAll, outcome]) rfl

theorem written {steps : List Write} {after : ServerState}
    (outcome : AllOrNothing steps state after) : (Write.makeAll steps state).2 = after := by
  cases outcome with
  | all made => rw [made]
  | nothing error refused same => rw [refused, same]

end AllOrNothing

def addStubWrites (stub : HttpStub) : List Write :=
  [.ofStubs (·.add stub), .ofScenarios (joinScenario stub)]

private theorem allOrNothing_addStub (stub : HttpStub) :
    AllOrNothing (addStubWrites stub) state ((state.addStub stub).toOption.getD state) := by
  rw [addStubWrites, addStub]
  cases stored : state.stubs.add stub with
  | ok stubs => exact .all (Write.makeAll_ofPart stored)
  | error error => exact .nothing error (Write.makeAll_ofPart_refused stored) rfl

def addDefaultStubWrites (stub : HttpStub) : List Write :=
  let stub := { stub with persistent := true }
  [.ofStubs (·.add stub), .ofScenarios (joinScenario stub),
    .always fun state => { state with defaults := state.defaults ++ [stub] }]

private theorem allOrNothing_addDefaultStub (stub : HttpStub) :
    AllOrNothing (addDefaultStubWrites stub) state
      ((state.addDefaultStub stub).toOption.getD state) := by
  rw [addDefaultStubWrites, addDefaultStub, addStub]
  cases stored : state.stubs.add { stub with persistent := true } with
  | ok stubs => exact .all (Write.makeAll_ofPart stored)
  | error error => exact .nothing error (Write.makeAll_ofPart_refused stored) rfl

def replaceStubWrites (state : ServerState) (stub : HttpStub) : List Write :=
  match state.stubs.find? stub.id with
  | none => [.refuse (.stubNotFound stub.id)]
  | some previous =>
      let stays := previous.scenario.map ScenarioSpec.name == stub.scenario.map ScenarioSpec.name
      [.ofScenarios (joinScenario stub), .ofStubs (·.replace stub),
        .ofScenarios (if stays then id else leaveScenario previous)]

/-- The scenario is joined before the stub is exchanged, but the exchange cannot be refused any
more once the previous version has been found. -/
theorem allOrNothing_replaceStub (stub : HttpStub) :
    AllOrNothing (replaceStubWrites state stub) state
      ((state.replaceStub stub).toOption.getD state) := by
  rw [replaceStubWrites]
  cases found : state.stubs.find? stub.id with
  | none => exact .nothing (.stubNotFound stub.id) rfl (by rw [replaceStub, found]; rfl)
  | some previous =>
      have known : stub.id ∈ state.stubs.ids :=
        StubStore.find?_isSome_iff.mp (by rw [found]; rfl)
      obtain ⟨stubs, replaced⟩ : ∃ stubs, state.stubs.replace stub = .ok stubs :=
        ⟨_, StubStore.replace_eq_ok_iff.mpr ⟨known, rfl⟩⟩
      rw [replaceStub_eq_ok_iff.mpr ⟨previous, stubs, found, replaced, rfl⟩]
      refine .all ((Write.makeAll_ofPart replaced).trans ?_)
      rw [replaceInScenarios]
      cases previous.scenario.map ScenarioSpec.name == stub.scenario.map ScenarioSpec.name with
      | true => rfl
      | false => rfl

def removeStubWrites (state : ServerState) (id : Uuid) : List Write :=
  [.always fun state => { state with stubs := (state.stubs.remove id).2 },
    match (state.stubs.remove id).1 with
    | none => .refuse (.stubNotFound id)
    | some stub => .ofScenarios (leaveScenario stub)]

/-- The store is written before it is known whether the stub was there.  If it was not, the store
is written as it was. -/
theorem allOrNothing_removeStub (numbered : state.Numbered) (id : Uuid) :
    AllOrNothing (removeStubWrites state id) state
      (((state.removeStub id).map Prod.snd).toOption.getD state) := by
  rw [removeStubWrites, StubStore.remove_fst]
  cases found : state.stubs.find? id with
  | none =>
      refine .nothing (.stubNotFound id) ?_ (by rw [removeStub, found]; rfl)
      simp only [Write.makeAll, Write.always, Write.refuse, StubStore.remove_of_absent found]
  | some stub =>
      have alone : (state.stubs.removeWhere fun stub => stub.id == id).1 = [stub] :=
        numbered.stubs.removeWhere_id_fst found
      rw [removeStub_eq_ok_iff.mpr ⟨found, rfl⟩]
      refine .all ?_
      simp only [Write.makeAll, Write.always, Write.ofScenarios, StubStore.remove_snd,
        removeStubsWhere, alone]
      rfl

def addMessageStubWrites (stub : MessageStub) : List Write :=
  [.ofMessageStubs (·.add stub), .ofScenarios (joinScenario stub)]

private theorem allOrNothing_addMessageStub (stub : MessageStub) :
    AllOrNothing (addMessageStubWrites stub) state
      ((state.addMessageStub stub).toOption.getD state) := by
  rw [addMessageStubWrites, addMessageStub]
  cases stored : state.messageStubs.add stub with
  | ok messageStubs => exact .all ((Write.makeAll_ofPart stored).trans rfl)
  | error error => exact .nothing error (Write.makeAll_ofPart_refused stored) rfl

def removeMessageStubWrites (state : ServerState) (id : Uuid) : List Write :=
  [.always fun state => { state with messageStubs := (state.messageStubs.remove id).2 },
    match (state.messageStubs.remove id).1 with
    | none => .refuse (.stubNotFound id)
    | some stub => .ofScenarios (leaveScenario stub)]

private theorem allOrNothing_removeMessageStub (numbered : state.Numbered) (id : Uuid) :
    AllOrNothing (removeMessageStubWrites state id) state
      (((state.removeMessageStub id).map Prod.snd).toOption.getD state) := by
  rw [removeMessageStubWrites, StubStore.remove_fst]
  cases found : state.messageStubs.find? id with
  | none =>
      refine .nothing (.stubNotFound id) ?_ ?_
      · simp only [Write.makeAll, Write.always, Write.refuse, StubStore.remove_of_absent found]
      · cases removed : state.removeMessageStub id with
        | error error => rfl
        | ok pair =>
            have known := ((removeMessageStub_eq_ok_iff numbered).mp removed).1
            rw [found] at known
            cases known
  | some stub =>
      rw [(removeMessageStub_eq_ok_iff numbered).mpr ⟨found, rfl⟩]
      refine .all ?_
      simp only [Write.makeAll, Write.always, Write.ofScenarios, StubStore.remove_snd,
        withoutMessageStubs, numbered.messageStubs.removeWhere_id_fst found]
      rfl

def closeChannelWrites (state : ServerState) (id : Uuid) : List Write :=
  [.always fun state => { state with channels := state.channels.erase id },
    match state.channels.find? id with
    | none => .refuse (.channelNotFound id)
    | some _ => .always (fun state => state)]

private theorem allOrNothing_closeChannel (id : Uuid) :
    AllOrNothing (closeChannelWrites state id) state
      (((state.closeChannel id).map Prod.snd).toOption.getD state) := by
  rw [closeChannelWrites, closeChannel]
  cases found : state.channels.find? id with
  | none =>
      refine .nothing (.channelNotFound id) ?_ rfl
      simp only [Write.makeAll, Write.always, Write.refuse, Channels.erase_of_absent found]
  | some channel => exact .all rfl

/-- The message moves a scenario, then it is recorded, then the listeners are told. -/
def receiveMessageWrites :
    Except StateError (MessageOutcome R × ServerState) → List Write
  | .error error => [.refuse error]
  | .ok (_, after) =>
      [.ofScenarios fun _ => after.scenarios,
        .always fun state => { state with messages := after.messages },
        .always fun state => { state with listeners := after.listeners }]

private theorem receiveMessage_parts {now : Calendar.Instant} {channel : Uuid} {body : Bytes}
    {outcome : MessageOutcome R} {after : ServerState}
    (received : state.receiveMessage now channel body = .ok (outcome, after)) :
    after = { state with
      scenarios := after.scenarios, messages := after.messages, listeners := after.listeners } := by
  simp only [receiveMessage] at received
  split at received
  · cases received
  · split at received
    · cases received
      rfl
    · cases received
      rfl

private theorem allOrNothing_receiveMessage (now : Calendar.Instant) (channel : Uuid)
    (body : Bytes) :
    let received : Except StateError (MessageOutcome R × ServerState) :=
      state.receiveMessage now channel body
    AllOrNothing (receiveMessageWrites received) state
      ((received.map Prod.snd).toOption.getD state) := by
  intro received
  cases outcome : received with
  | error error => exact .nothing error rfl rfl
  | ok pair => exact .all (congrArg (Prod.mk (Except.ok ())) (receiveMessage_parts outcome).symm)

variable (R) in
/-- The steps of an operation, in the order in which they are made.  One that cannot be refused
counts as a single step. -/
def writes (state : ServerState) : ServerOperation → List Write
  | .http (.addStub stub) => addStubWrites stub
  | .http (.addDefaultStub stub) => addDefaultStubWrites stub
  | .http (.replaceStub stub) => state.replaceStubWrites stub
  | .http (.removeStub id) => state.removeStubWrites id
  | .http (.setScenarioState name value) => [(setScenarioState · name value)]
  | .http (.resetScenario name) => [(resetScenario · name)]
  | .addMessageStub stub => addMessageStubWrites stub
  | .removeMessageStub id => state.removeMessageStubWrites id
  | .receiveMessage now channel body =>
      receiveMessageWrites (state.receiveMessage now channel body :
        Except StateError (MessageOutcome R × ServerState))
  | .closeChannel id => state.closeChannelWrites id
  | operation => [.always (perform R · operation)]

/-- An operation makes all its steps, or it is refused and the server is as it was, even if some
steps had been made by then. -/
theorem allOrNothing_perform (numbered : state.Numbered) (operation : ServerOperation) :
    AllOrNothing (state.writes R operation) state (state.perform R operation) := by
  cases operation with
  | http operation =>
      cases operation with
      | addStub stub => exact allOrNothing_addStub stub
      | addDefaultStub stub => exact allOrNothing_addDefaultStub stub
      | replaceStub stub => exact allOrNothing_replaceStub stub
      | removeStub id => exact allOrNothing_removeStub numbered id
      | setScenarioState name value => exact .single _
      | resetScenario name => exact .single _
      | removeStubsMatching pattern => exact .always _
      | removeStubsByMetadata now pattern => exact .always _
      | resetStubs => exact .always _
      | reset => exact .always _
      | resetToDefaults => exact .always _
      | serve now request => exact .always _
      | resetScenarios => exact .always _
  | addMessageStub stub => exact allOrNothing_addMessageStub stub
  | removeMessageStub id => exact allOrNothing_removeMessageStub numbered id
  | resetMessageStubs => exact .always _
  | receiveMessage now channel body => exact allOrNothing_receiveMessage now channel body
  | openChannel channel => exact .always _
  | closeChannel id => exact allOrNothing_closeChannel id
  | clearRequests => exact .always _
  | listen => exact .always _

end ServerState

end ServiceStub
