import ServiceStub.Proofs.Scenario.Listing
import ServiceStub.Proofs.Server.Steps
import Mathlib.Data.List.Infix

/-!
Stubs for requests and message stubs share the table of scenarios, where a stub is known by its id
only.  A stub that leaves a scenario therefore takes the other stub with its id along.
-/

namespace ServiceStub.ServerState

variable {R : Type} [Scalar R] {state before after : ServerState}

/-- Every scenario that a registered stub declares is listed, and the stub with it. -/
structure Linked (state : ServerState) : Prop where
  stubs : ∀ name id, state.stubs.Declares name id → state.scenarios.Lists name id
  messageStubs : ∀ name id, state.messageStubs.Declares name id → state.scenarios.Lists name id

/-- Of two stubs with one id, which both declared the same scenario, only one still does. -/
def Severed (before after : ServerState) : Prop :=
  ∃ name id, before.stubs.Declares name id ∧ before.messageStubs.Declares name id ∧
    ¬ (after.stubs.Declares name id ↔ after.messageStubs.Declares name id)

private theorem linked_iff (numbered : state.Numbered) :
    state.Linked ↔ ∀ name id,
      (state.stubs.member? name id).isSome ∨ (state.messageStubs.member? name id).isSome →
        (state.scenarios.member? name id).isSome := by
  constructor
  · rintro linked name id (declared | declared)
    · exact Scenarios.lists_iff.mp (linked.stubs name id (numbered.stubs.declares_iff.mpr declared))
    · exact Scenarios.lists_iff.mp
        (linked.messageStubs name id (numbered.messageStubs.declares_iff.mpr declared))
  · intro joined
    refine ⟨fun name id declared => ?_, fun name id declared => ?_⟩
    · exact Scenarios.lists_iff.mpr
        (joined name id (.inl (numbered.stubs.declares_iff.mp declared)))
    · exact Scenarios.lists_iff.mpr
        (joined name id (.inr (numbered.messageStubs.declares_iff.mp declared)))

theorem Linked.step (linked : before.Linked) (numbered : before.Numbered)
    (numberedAfter : after.Numbered) (change : ∀ name id, PartChangeAt before after name id)
    (intact : ¬ Severed before after) : after.Linked := by
  rw [linked_iff numbered] at linked
  rw [linked_iff numberedAfter]
  intro name id declared
  have joined := linked name id
  cases change name id with
  | kept httpKept messageKept tableKept =>
      rw [httpKept, messageKept] at declared
      rw [tableKept]
      exact joined declared
  | httpJoined joins listed messageKept => exact listed ▸ joins
  | messageJoined joins listed httpKept => exact listed ▸ joins
  | left gone unlisted httpRest messageRest =>
      refine absurd ⟨name, id, ?_⟩ intact
      rw [numbered.stubs.declares_iff, numbered.messageStubs.declares_iff,
        numberedAfter.stubs.declares_iff, numberedAfter.messageStubs.declares_iff]
      rcases gone with ⟨wasThere, gone⟩ | ⟨wasThere, gone⟩
      · rw [gone] at declared ⊢
        have stays := declared.resolve_left Bool.false_ne_true
        rcases messageRest with kept | left
        · exact ⟨wasThere, kept ▸ stays, by simp [stays]⟩
        · simp [left] at stays
      · rw [gone] at declared ⊢
        have stays := declared.resolve_right Bool.false_ne_true
        rcases httpRest with kept | left
        · exact ⟨kept ▸ stays, wasThere, by simp [stays]⟩
        · simp [left] at stays

private theorem Linked.not_severed (linked : after.Linked) (numbered : before.Numbered)
    (numberedAfter : after.Numbered) (change : ∀ name id, PartChangeAt before after name id) :
    ¬ Severed before after := by
  rintro ⟨name, id, http, message, different⟩
  rw [numbered.stubs.declares_iff] at http
  rw [numbered.messageStubs.declares_iff] at message
  rw [numberedAfter.stubs.declares_iff, numberedAfter.messageStubs.declares_iff] at different
  have joined := (linked_iff numberedAfter).mp linked name id
  cases change name id with
  | kept httpKept messageKept tableKept => simp [httpKept, messageKept, http, message] at different
  | httpJoined joins listed messageKept => simp [joins, messageKept, message] at different
  | messageJoined joins listed httpKept => simp [joins, httpKept, http] at different
  | left gone unlisted httpRest messageRest =>
      rw [unlisted] at joined
      have nobody : ¬ (_ ∨ _) := fun declared => Bool.false_ne_true (joined declared)
      rw [not_or] at nobody
      exact different (iff_of_false nobody.1 nobody.2)

/-- The default stubs meet no message stubs, which are gone by then. -/
theorem linked_resetToDefaults (numbered : state.Numbered) : state.resetToDefaults.Linked := by
  have restored (defaults : List HttpStub) (state : ServerState) (numbered : state.Numbered)
      (linked : state.Linked) (noMessages : state.messageStubs.toList = []) :
      (defaults.foldl restoreDefault state).Linked := by
    induction defaults generalizing state with
    | nil => exact linked
    | cons stub rest induction =>
        rw [List.foldl_cons, restoreDefault]
        split
        · next after added =>
            have numberedAfter := numbered.addStub added
            have intact : ¬ Severed state after := by
              rintro ⟨name, id, -, ⟨other, registered, -⟩, -⟩
              simp [noMessages] at registered
            refine induction after numberedAfter
              (linked.step numbered numberedAfter (partChange_addStub added) intact) ?_
            obtain ⟨stubs, -, rfl⟩ := addStub_eq_ok_iff.mp added
            exact noMessages
        · exact induction state numbered linked noMessages
  have noStubs : state.emptied.stubs.toList = [] := by simp [emptied_stubs]
  have noMessages : state.emptied.messageStubs.toList = [] := by simp [emptied_messageStubs]
  refine restored state.defaults state.emptied numbered.emptied ⟨?_, ?_⟩ noMessages
  · rintro name id ⟨stub, registered, -⟩
    simp [noStubs] at registered
  · rintro name id ⟨stub, registered, -⟩
    simp [noMessages] at registered

theorem run_concat (state : ServerState) (history : List ServerOperation)
    (operation : ServerOperation) :
    run R state (history ++ [operation]) = perform R (run R state history) operation := by
  simp [run]

theorem Numbered.run (numbered : state.Numbered) (history : List ServerOperation) :
    (run R state history).Numbered := by
  induction history using List.reverseRecOn with
  | nil => exact numbered
  | append_singleton history operation induction =>
      rw [run_concat]
      exact induction.perform operation

private theorem linked_ofLimits (journalLimit : Option Nat) (nearMissLimit : Nat) :
    (ofLimits journalLimit nearMissLimit).Linked where
  stubs := by
    rintro name id ⟨stub, registered, -⟩
    simp [ofLimits, StubStore.toList] at registered
  messageStubs := by
    rintro name id ⟨stub, registered, -⟩
    simp [ofLimits, StubStore.toList] at registered

/-- All servers along a run are linked exactly if no step severs two stubs.  Going back to the
defaults may do so, as it makes the scenarios anew. -/
theorem linked_iff_never_severed (R : Type) [Scalar R] (journalLimit : Option Nat)
    (nearMissLimit : Nat) (history : List ServerOperation) :
    (∀ earlier, earlier <+: history →
        (run R (ofLimits journalLimit nearMissLimit) earlier).Linked) ↔
      ∀ earlier operation, earlier ++ [operation] <+: history →
        operation ≠ .http .resetToDefaults →
          ¬ Severed (run R (ofLimits journalLimit nearMissLimit) earlier)
            (run R (ofLimits journalLimit nearMissLimit) (earlier ++ [operation])) := by
  have numbered (earlier : List ServerOperation) :=
    (Numbered.ofLimits journalLimit nearMissLimit).run (R := R) earlier
  constructor
  · intro linked earlier operation performed ordinary
    refine (linked _ performed).not_severed (numbered earlier) (numbered _) fun name id => ?_
    rw [run_concat]
    exact partChange_perform (numbered earlier) ordinary name id
  · intro intact earlier performed
    induction earlier using List.reverseRecOn with
    | nil => exact linked_ofLimits journalLimit nearMissLimit
    | append_singleton earlier operation induction =>
        by_cases ordinary : operation = .http .resetToDefaults
        · rw [run_concat, ordinary]
          exact linked_resetToDefaults (numbered earlier)
        · refine (induction ((List.prefix_append _ _).trans performed)).step (numbered earlier)
            (numbered _) (fun name id => ?_) (intact earlier operation performed ordinary)
          rw [run_concat]
          exact partChange_perform (numbered earlier) ordinary name id

/-- Once the message stub is gone, the scenario that the other stub declares is not listed. -/
theorem not_linked_after_removeMessageStub :
    ¬ ∀ history : List ServerOperation, (run Rat (ofLimits none 3) history).Linked := by
  intro linked
  let stub : HttpStub := { id := .nil, scenario := some { name := "flow" } }
  let messageStub : MessageStub := { id := .nil, scenario := some { name := "flow" } }
  let history : List ServerOperation :=
    [.http (.addStub stub), .addMessageStub messageStub, .removeMessageStub .nil]
  have registered : (run Rat (ofLimits none 3) history).stubs.toList = [stub] := rfl
  have unlisted : (run Rat (ofLimits none 3) history).scenarios.all = [] := by decide
  obtain ⟨scenario, member, -⟩ := (linked history).stubs "flow" .nil
    ⟨stub, registered ▸ List.mem_singleton_self stub, rfl, rfl⟩
  rw [unlisted] at member
  exact List.not_mem_nil member

end ServiceStub.ServerState
