import ServiceStub.Proofs.Server.Likeness
import ServiceStub.Proofs.Server.SharedScenarios

/-!
The way back to the default stubs.  It leaves nothing behind of what a server went through, except
which default stubs were registered with it.
-/

namespace ServiceStub

private theorem Journal.limit_record {E : Type} (journal : Journal E) (entry : E) :
    (journal.record entry).limit = journal.limit := by
  rw [record]
  split <;> rfl

namespace ServerState

section DefaultStubs

variable (R : Type) [Scalar R]

def addedDefault (state : ServerState) : ServerOperation → List HttpStub
  | .http (.addDefaultStub stub) =>
      match state.addDefaultStub stub with
      | .ok _ => [stub]
      | .error _ => []
  | _ => []

def addedDefaults (state : ServerState) : List ServerOperation → List HttpStub
  | [] => []
  | operation :: rest =>
      state.addedDefault operation ++ addedDefaults (state.perform R operation) rest

end DefaultStubs

/-- What no operation changes, but for the default stubs that are added at the end. -/
structure Extended (added : List HttpStub) (before after : ServerState) : Prop where
  journalLimit : after.requests.limit = before.requests.limit
  nearMissLimit : after.nearMissLimit = before.nearMissLimit
  defaults : after.defaults =
    before.defaults ++ added.map fun stub => { stub with persistent := true }

variable {R : Type} [Scalar R] {state before after : ServerState}

namespace Extended

private theorem of_eq (journalLimit : after.requests.limit = before.requests.limit)
    (nearMissLimit : after.nearMissLimit = before.nearMissLimit)
    (defaults : after.defaults = before.defaults) : Extended [] before after :=
  ⟨journalLimit, nearMissLimit, defaults.trans (List.append_nil _).symm⟩

theorem refl (state : ServerState) : Extended [] state state := .of_eq rfl rfl rfl

theorem trans {middle : ServerState} {earlier later : List HttpStub}
    (first : Extended earlier before middle) (second : Extended later middle after) :
    Extended (earlier ++ later) before after where
  journalLimit := second.journalLimit.trans first.journalLimit
  nearMissLimit := second.nearMissLimit.trans first.nearMissLimit
  defaults := by rw [second.defaults, first.defaults, List.map_append, List.append_assoc]

theorem restoreDefaults (state : ServerState) (defaults : List HttpStub) :
    Extended [] state (defaults.foldl restoreDefault state) := by
  induction defaults generalizing state with
  | nil => exact .refl state
  | cons stub rest induction =>
      have restored : Extended [] state (state.restoreDefault stub) := by
        rw [restoreDefault_eq]
        refine getD_of_ok (Extended [] state) (.refl state) fun after added => ?_
        obtain ⟨stubs, -, rfl⟩ := addStub_eq_ok_iff.mp added
        exact .of_eq rfl rfl rfl
      exact restored.trans (induction _)

theorem serve (now : Calendar.Instant) (state : ServerState) (request : Http.Request) :
    Extended [] state (state.serve now request : ServeOutcome R × ServerState).2 := by
  rw [ServerState.serve]
  split
  · exact .of_eq (Journal.limit_record ..) rfl rfl
  · exact .of_eq (Journal.limit_record ..) rfl rfl

theorem receiveMessage {now : Calendar.Instant} {channel : Uuid} {body : Bytes}
    {outcome : MessageOutcome R}
    (received : state.receiveMessage now channel body = .ok (outcome, after)) :
    Extended [] state after := by
  simp only [ServerState.receiveMessage] at received
  split at received
  · simp at received
  · split at received
    · obtain ⟨-, rfl⟩ := Prod.mk.inj (Except.ok.inj received)
      exact .of_eq rfl rfl rfl
    · obtain ⟨-, rfl⟩ := Prod.mk.inj (Except.ok.inj received)
      exact .of_eq rfl rfl rfl

theorem performHttp (state : ServerState) (operation : HttpOperation) :
    Extended (state.addedDefault (.http operation)) state (state.performHttp R operation) := by
  cases operation with
  | addStub stub =>
      refine getD_of_ok (Extended [] state) (.refl state) fun after added => ?_
      obtain ⟨stubs, -, rfl⟩ := addStub_eq_ok_iff.mp added
      exact .of_eq rfl rfl rfl
  | addDefaultStub stub =>
      rw [addedDefault, ServerState.performHttp]
      cases attempt : state.addDefaultStub stub with
      | error _ => exact .refl state
      | ok after =>
          obtain ⟨registered, stored, rfl⟩ := addDefaultStub_eq_ok_iff.mp attempt
          obtain ⟨stubs, -, rfl⟩ := addStub_eq_ok_iff.mp stored
          exact ⟨rfl, rfl, rfl⟩
  | replaceStub stub =>
      refine getD_of_ok (Extended [] state) (.refl state) fun after replaced => ?_
      obtain ⟨previous, stubs, -, -, rfl⟩ := replaceStub_eq_ok_iff.mp replaced
      exact .of_eq rfl rfl rfl
  | removeStub id =>
      refine getD_of_ok (Extended [] state) (.refl state) fun after removed => ?_
      obtain ⟨stub, removed⟩ := map_snd_eq_ok removed
      obtain ⟨-, rfl⟩ := removeStub_eq_ok_iff.mp removed
      exact .of_eq rfl rfl rfl
  | removeStubsMatching pattern => exact .of_eq rfl rfl rfl
  | removeStubsByMetadata now pattern => exact .of_eq rfl rfl rfl
  | resetStubs => exact .of_eq rfl rfl rfl
  | reset => exact .of_eq rfl rfl rfl
  | resetToDefaults =>
      rw [ServerState.performHttp, resetToDefaults_eq]
      have emptied : Extended [] state state.emptied := .of_eq rfl rfl rfl
      exact emptied.trans (restoreDefaults _ _)
  | serve now request => exact serve now state request
  | setScenarioState name value =>
      refine getD_of_ok (Extended [] state) (.refl state) fun after done => ?_
      obtain ⟨scenarios, -, rfl⟩ := setScenarioState_eq_ok_iff.mp done
      exact .of_eq rfl rfl rfl
  | resetScenario name =>
      refine getD_of_ok (Extended [] state) (.refl state) fun after done => ?_
      obtain ⟨scenarios, -, rfl⟩ := setScenarioState_eq_ok_iff.mp done
      exact .of_eq rfl rfl rfl
  | resetScenarios => exact .of_eq rfl rfl rfl

theorem perform (state : ServerState) (operation : ServerOperation) :
    Extended (state.addedDefault operation) state (state.perform R operation) := by
  cases operation with
  | http operation => exact performHttp state operation
  | addMessageStub stub =>
      refine getD_of_ok (Extended [] state) (.refl state) fun after added => ?_
      obtain ⟨messageStubs, -, rfl⟩ := addMessageStub_eq_ok_iff.mp added
      exact .of_eq rfl rfl rfl
  | removeMessageStub id =>
      refine getD_of_ok (Extended [] state) (.refl state) fun after removed => ?_
      obtain ⟨stub, removed⟩ := map_snd_eq_ok removed
      rw [ServerState.removeMessageStub] at removed
      split at removed
      · simp at removed
      · obtain ⟨-, rfl⟩ := Prod.mk.inj (Except.ok.inj removed)
        exact .of_eq rfl rfl rfl
  | resetMessageStubs => exact .of_eq rfl rfl rfl
  | receiveMessage now channel body =>
      refine getD_of_ok (Extended [] state) (.refl state) fun after received => ?_
      obtain ⟨outcome, received⟩ := map_snd_eq_ok received
      exact receiveMessage received
  | openChannel channel => exact .of_eq rfl rfl rfl
  | closeChannel id =>
      refine getD_of_ok (Extended [] state) (.refl state) fun after closed => ?_
      obtain ⟨channel, closed⟩ := map_snd_eq_ok closed
      obtain ⟨channels, rfl⟩ := closeChannel_eq_ok closed
      exact .of_eq rfl rfl rfl
  | clearRequests => exact .of_eq rfl rfl rfl
  | listen => exact .of_eq rfl rfl rfl

theorem run (state : ServerState) (history : List ServerOperation) :
    Extended (state.addedDefaults R history) state (state.run R history) := by
  induction history generalizing state with
  | nil => exact .refl state
  | cons operation rest induction => exact (perform state operation).trans (induction _)

end Extended

private theorem alike_resetToDefaults {journalLimit : Option Nat} {nearMissLimit : Nat}
    {first second : List ServerOperation}
    (same : (ofLimits journalLimit nearMissLimit).addedDefaults R first =
      (ofLimits journalLimit nearMissLimit).addedDefaults R second) :
    ((ofLimits journalLimit nearMissLimit).run R first).resetToDefaults.Alike
      ((ofLimits journalLimit nearMissLimit).run R second).resetToDefaults := by
  have initial := Numbered.ofLimits journalLimit nearMissLimit
  have left := Extended.run (R := R) (ofLimits journalLimit nearMissLimit) first
  have right := Extended.run (R := R) (ofLimits journalLimit nearMissLimit) second
  exact .resetToDefaults (initial.run first) (initial.run second)
    (left.journalLimit.trans right.journalLimit.symm)
    (left.nearMissLimit.trans right.nearMissLimit.symm)
    (by rw [left.defaults, right.defaults, same])

private theorem alike_resetToDefaults_twice (journalLimit : Option Nat) (nearMissLimit : Nat)
    (history : List ServerOperation) :
    ((ofLimits journalLimit nearMissLimit).run R history).resetToDefaults.resetToDefaults.Alike
      ((ofLimits journalLimit nearMissLimit).run R history).resetToDefaults := by
  have numbered := (Numbered.ofLimits journalLimit nearMissLimit).run (R := R) history
  let state := (ofLimits journalLimit nearMissLimit).run R history
  have kept := Extended.performHttp (R := R) state .resetToDefaults
  exact .resetToDefaults (numbered.performHttp (R := R) .resetToDefaults) numbered
    kept.journalLimit kept.nearMissLimit (kept.defaults.trans (List.append_nil _))

/-- Two servers answer every later history alike, and look alike after it. -/
structure Indistinguishable (R : Type) [Scalar R] (left right : ServerState) : Prop where
  answers : ∀ later, left.answersHttp R later = right.answersHttp R later
  seen : ∀ later, SeenAlike R (left.runHttp R later) (right.runHttp R later)

private theorem Alike.indistinguishable {left right : ServerState} (alike : left.Alike right) :
    Indistinguishable R left right where
  answers later := (alike.runHttp later).1
  seen later := (alike.runHttp later).2.seenAlike

/-- Servers with the same default stubs cannot be told apart once they are back to them, whatever
else they went through, and to go back twice is to go back once. -/
theorem indistinguishable_resetToDefaults (R : Type) [Scalar R] (journalLimit : Option Nat)
    (nearMissLimit : Nat) (first second : List ServerOperation)
    (same : (ofLimits journalLimit nearMissLimit).addedDefaults R first =
      (ofLimits journalLimit nearMissLimit).addedDefaults R second) :
    Indistinguishable R ((ofLimits journalLimit nearMissLimit).run R first).resetToDefaults
        ((ofLimits journalLimit nearMissLimit).run R second).resetToDefaults ∧
      Indistinguishable R
        ((ofLimits journalLimit nearMissLimit).run R first).resetToDefaults.resetToDefaults
        ((ofLimits journalLimit nearMissLimit).run R first).resetToDefaults :=
  ⟨(alike_resetToDefaults same).indistinguishable,
    (alike_resetToDefaults_twice journalLimit nearMissLimit first).indistinguishable⟩

/-- In the first run the scenario is moved, a stub with a taken id is refused as a default stub
and others are added; in the second run a message stub takes part in the scenario. -/
theorem indistinguishable_welcome :
    let welcome : HttpStub := { id := .nil, scenario := some { name := "flow" } }
    let first : List ServerOperation :=
      [.http (.addStub { id := ⟨1⟩ }), .http (.addDefaultStub welcome),
        .http (.addDefaultStub { id := ⟨1⟩, name := some "late" }),
        .http (.setScenarioState "flow" "Done")]
    let second : List ServerOperation :=
      [.addMessageStub { id := ⟨2⟩, scenario := some { name := "flow" } }, .listen,
        .http (.addDefaultStub welcome), .http (.removeStub ⟨1⟩)]
    (ofLimits none 3).addedDefaults Rat first = (ofLimits none 3).addedDefaults Rat second ∧
      Indistinguishable Rat ((ofLimits none 3).run Rat first).resetToDefaults
        ((ofLimits none 3).run Rat second).resetToDefaults := by
  intro welcome first second
  have same :
      (ofLimits none 3).addedDefaults Rat first = (ofLimits none 3).addedDefaults Rat second :=
    rfl
  exact ⟨same, (indistinguishable_resetToDefaults Rat none 3 first second same).1⟩

end ServerState

end ServiceStub
