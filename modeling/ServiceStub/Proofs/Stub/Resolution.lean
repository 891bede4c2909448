import ServiceStub.Stub.Message
import ServiceStub.Stub.Resolution
import ServiceStub.Proofs.Scenario.Membership
import ServiceStub.Proofs.Stub.History
import Mathlib.Data.Prod.Lex

/-!
The stub chosen for an input is the one that is preferred to all others which the scenarios permit
and which match exactly.
-/

namespace ServiceStub

variable {S Input : Type} [Stub S Input]

namespace StubEntry

def rank (entry : StubEntry S) : Int ×ₗ Natᵒᵈ ×ₗ Natᵒᵈ ×ₗ Nat :=
  toLex (Stub.priority entry.stub,
    toLex (OrderDual.toDual (Stub.specificity entry.stub).urlRank,
      toLex (OrderDual.toDual (Stub.specificity entry.stub).predicates, entry.seq)))

private theorem precedes_iff_rank_le {left right : StubEntry S} :
    left.precedes right ↔ left.rank ≤ right.rank := by
  rcases leftSpecificity : Stub.specificity left.stub with ⟨leftUrl, leftCount⟩
  rcases rightSpecificity : Stub.specificity right.stub with ⟨rightUrl, rightCount⟩
  simp only [precedes, rank, Specificity.precedes, leftSpecificity, rightSpecificity,
    Prod.Lex.toLex_le_toLex, OrderDual.toDual_lt_toDual, OrderDual.toDual_inj,
    Bool.or_eq_true, Bool.and_eq_true, decide_eq_true_eq, beq_iff_eq, Specificity.mk.injEq]
  split
  · simp
    omega
  · simp
    omega

private theorem eq_of_rank {store : StubStore S} (numbered : store.Numbered)
    {left right : StubEntry S}
    (leftMember : left ∈ store.entries) (rightMember : right ∈ store.entries)
    (sameRank : left.rank = right.rank) : left = right := by
  simp only [rank, EmbeddingLike.apply_eq_iff_eq, Prod.mk.injEq] at sameRank
  exact numbered.eq_of_seq leftMember rightMember sameRank.2.2.2

end StubEntry

namespace StubStore

variable {R : Type} [Scalar R]

/-- A smaller priority is preferred, then a higher rank of the URL, then more predicates, and then
the stub that was registered first. -/
def Preferred (priority : S → Int) (history : List (StoreOperation S)) (left right : S) : Prop :=
  Prod.Lex (· < ·) (Prod.Lex (· > ·) (Prod.Lex (· > ·) (RegisteredBefore history)))
    (priority left, (Stub.specificity left).urlRank, (Stub.specificity left).predicates,
      Stub.id left)
    (priority right, (Stub.specificity right).urlRank, (Stub.specificity right).predicates,
      Stub.id right)

private theorem preferred_iff_rank_lt (history : List (StoreOperation S)) {left right : StubEntry S}
    (leftMember : left ∈ (run history).entries) (rightMember : right ∈ (run history).entries) :
    Preferred Stub.priority history left.stub right.stub ↔ left.rank < right.rank := by
  simp only [Preferred, StubEntry.rank, Prod.lex_def, Prod.Lex.toLex_lt_toLex,
    OrderDual.toDual_lt_toDual, OrderDual.toDual_inj, gt_iff_lt,
    seq_lt_iff_registeredBefore history leftMember rightMember]

variable (R) in
/-- The state of its scenario permits the stub, and the stub matches exactly. -/
def Accepts (now : Calendar.Instant) (scenarios : Scenarios) (input : Input) (stub : S) : Prop :=
  scenarios.permits (Stub.scenario stub) ∧
    (Stub.evaluate now stub input : MatchReport R).isExact

/-- A registered stub with a property, preferred to all others that have it. -/
structure IsPreferred (priority : S → Int) (history : List (StoreOperation S))
    (property : S → Prop) (stub : S) : Prop where
  registered : stub ∈ (run history).toList
  holds : property stub
  preferred : ∀ other ∈ (run history).toList, property other → other ≠ stub →
    Preferred priority history stub other

theorem mem_candidates {store : StubStore S} {now : Calendar.Instant} {scenarios : Scenarios}
    {input : Input} {candidate : Candidate S R} :
    candidate ∈ store.candidates now scenarios input ↔
      candidate.entry ∈ store.entries ∧
        Accepts R now scenarios input candidate.entry.stub ∧
        candidate.report = Stub.evaluate now candidate.entry.stub input := by
  rcases candidate with ⟨entry, report⟩
  simp only [candidates, List.mem_filterMap, List.mem_filter, Accepts]
  constructor
  · rintro ⟨registered, ⟨member, permitted⟩, matched⟩
    split at matched
    · next exact =>
        obtain ⟨rfl, rfl⟩ := Candidate.mk.inj (Option.some.inj matched)
        exact ⟨member, ⟨permitted, exact⟩, rfl⟩
    · simp at matched
  · rintro ⟨member, ⟨permitted, exact⟩, rfl⟩
    exact ⟨entry, ⟨member, permitted⟩, by simp [exact]⟩

def sortedCandidates (now : Calendar.Instant) (store : StubStore S) (scenarios : Scenarios)
    (input : Input) : List (Candidate S R) :=
  (store.candidates now scenarios input).mergeSort fun left right =>
    left.entry.precedes right.entry

private theorem sortedCandidates_pairwise (now : Calendar.Instant) (store : StubStore S)
    (scenarios : Scenarios) (input : Input) :
    (sortedCandidates now store scenarios input : List (Candidate S R)).Pairwise fun left right =>
      left.entry.rank ≤ right.entry.rank := by
  have sorted : (sortedCandidates now store scenarios input : List (Candidate S R)).Pairwise
      fun left right => left.entry.precedes right.entry :=
    List.pairwise_mergeSort
      (fun first second third firstSecond secondThird => by
        rw [StubEntry.precedes_iff_rank_le] at firstSecond secondThird ⊢
        exact firstSecond.trans secondThird)
      (fun left right => by
        simp only [Bool.or_eq_true, StubEntry.precedes_iff_rank_le]
        exact le_total _ _)
      _
  exact sorted.imp StubEntry.precedes_iff_rank_le.mp

/-- Every candidate is permitted, so the first one is claimed. -/
theorem resolve_eq (now : Calendar.Instant) (store : StubStore S) (scenarios : Scenarios)
    (input : Input) :
    (store.resolve now scenarios input : Option (Resolution S R) × Scenarios) =
      match (sortedCandidates now store scenarios input : List (Candidate S R)) with
      | [] => (none, scenarios)
      | candidate :: _ =>
          (some {
            stub := candidate.entry.stub
            report := candidate.report
            transition := (scenarios.move (Stub.scenario candidate.entry.stub)).1 },
            (scenarios.move (Stub.scenario candidate.entry.stub)).2) := by
  cases sorted : (sortedCandidates now store scenarios input : List (Candidate S R)) with
  | nil =>
      rw [sortedCandidates] at sorted
      simp [resolve, Scenarios.claimFirst, sorted]
  | cons candidate rest =>
      have member : candidate ∈ (sortedCandidates now store scenarios input : List _) := by
        rw [sorted]
        exact List.mem_cons_self
      have permitted := (mem_candidates.mp (List.mem_mergeSort.mp member)).2.1.1
      rw [sortedCandidates] at sorted
      simp [resolve, Scenarios.claimFirst, sorted, permitted]

/-- Either nothing is chosen and nothing changes, or a registered stub makes its move. -/
theorem resolve_cases (now : Calendar.Instant) (store : StubStore S) (scenarios : Scenarios)
    (input : Input) :
    (store.resolve now scenarios input : Option (Resolution S R) × Scenarios) = (none, scenarios) ∨
      ∃ resolution, (store.resolve now scenarios input : Option (Resolution S R) × Scenarios) =
          (some resolution, (scenarios.move (Stub.scenario resolution.stub)).2) ∧
        resolution.stub ∈ store.toList ∧
        resolution.transition = (scenarios.move (Stub.scenario resolution.stub)).1 := by
  rw [resolve_eq]
  cases sorted : (sortedCandidates now store scenarios input : List (Candidate S R)) with
  | nil => exact .inl rfl
  | cons candidate rest =>
      have member : candidate ∈ (sortedCandidates now store scenarios input : List _) := by
        rw [sorted]
        exact List.mem_cons_self
      have registered := (mem_candidates.mp (List.mem_mergeSort.mp member)).1
      exact .inr ⟨_, rfl, mem_toList.mpr ⟨candidate.entry, registered, rfl⟩, rfl⟩

/-- What is asked of a choice: it is made whenever a stub accepts the input, it falls on the
preferred one of these, and only the scenario of that stub moves. -/
structure IsChoice (priority : S → Int) (history : List (StoreOperation S))
    (now : Calendar.Instant) (scenarios : Scenarios) (input : Input)
    (outcome : Option (Resolution S R) × Scenarios) : Prop where
  isSome_iff :
    outcome.1.isSome ↔ ∃ stub ∈ (run history).toList, Accepts R now scenarios input stub
  unchanged : outcome.1 = none → outcome.2 = scenarios
  preferred_iff : ∀ resolution, outcome.1 = some resolution → ∀ stub,
    IsPreferred priority history (Accepts R now scenarios input) stub ↔ stub = resolution.stub
  report : ∀ resolution, outcome.1 = some resolution →
    resolution.report = Stub.evaluate now resolution.stub input
  moved : ∀ resolution, outcome.1 = some resolution →
    Scenarios.Moved scenarios outcome.2 (Stub.scenario resolution.stub) resolution.transition

private theorem isPreferred_iff_of_sorted {history : List (StoreOperation S)}
    {now : Calendar.Instant} {scenarios : Scenarios} {input : Input} {candidate : Candidate S R}
    {rest : List (Candidate S R)}
    (sorted : sortedCandidates now (run history) scenarios input = candidate :: rest) (stub : S) :
    IsPreferred Stub.priority history (Accepts R now scenarios input) stub ↔
      stub = candidate.entry.stub := by
  have numbered := numbered_run history
  have member_iff (other : Candidate S R) :
      other ∈ candidate :: rest ↔ other ∈ (run history).candidates now scenarios input := by
    rw [← sorted]
    exact List.mem_mergeSort
  obtain ⟨candidateMember, candidateAccepts, -⟩ :=
    mem_candidates.mp ((member_iff candidate).mp List.mem_cons_self)
  have least := (List.pairwise_cons.mp (sorted ▸ sortedCandidates_pairwise now _ scenarios input)).1
  have strictlyLeast (entry : StubEntry S) (member : entry ∈ (run history).entries)
      (accepts : Accepts R now scenarios input entry.stub) (different : entry ≠ candidate.entry) :
      candidate.entry.rank < entry.rank := by
    have listed := (member_iff ⟨entry, Stub.evaluate now entry.stub input⟩).mpr
      (mem_candidates.mpr ⟨member, accepts, rfl⟩)
    rcases List.mem_cons.mp listed with same | later
    · exact absurd (congrArg Candidate.entry same) different
    · refine lt_of_le_of_ne (least _ later) fun sameRank => ?_
      exact different (StubEntry.eq_of_rank numbered candidateMember member sameRank).symm
  constructor
  · intro preferred
    by_contra different
    obtain ⟨entry, member, rfl⟩ := mem_toList.mp preferred.registered
    have below := strictlyLeast entry member preferred.holds (fun same => different (same ▸ rfl))
    have above := preferred.preferred candidate.entry.stub
      (mem_toList.mpr ⟨candidate.entry, candidateMember, rfl⟩) candidateAccepts
      (Ne.symm different)
    rw [preferred_iff_rank_lt history member candidateMember] at above
    exact lt_asymm below above
  · rintro rfl
    refine ⟨mem_toList.mpr ⟨candidate.entry, candidateMember, rfl⟩, candidateAccepts, ?_⟩
    intro other registered accepts different
    obtain ⟨entry, member, rfl⟩ := mem_toList.mp registered
    rw [preferred_iff_rank_lt history candidateMember member]
    exact strictlyLeast entry member accepts fun same => different (same ▸ rfl)

private theorem isChoice_resolve (history : List (StoreOperation S)) (now : Calendar.Instant)
    (scenarios : Scenarios) (input : Input) :
    IsChoice Stub.priority history now scenarios input
      ((run history).resolve now scenarios input : Option (Resolution S R) × Scenarios) := by
  rw [resolve_eq]
  cases sorted : (sortedCandidates now (run history) scenarios input : List (Candidate S R)) with
  | nil =>
      have nobody (stub : S) (registered : stub ∈ (run history).toList) :
          ¬ Accepts R now scenarios input stub := by
        intro accepts
        obtain ⟨entry, member, rfl⟩ := mem_toList.mp registered
        have listed : (⟨entry, Stub.evaluate now entry.stub input⟩ : Candidate S R) ∈
            sortedCandidates now (run history) scenarios input :=
          List.mem_mergeSort.mpr (mem_candidates.mpr ⟨member, accepts, rfl⟩)
        simp [sorted] at listed
      exact {
        isSome_iff := by simpa using nobody
        unchanged := fun _ => rfl
        preferred_iff := by simp
        report := by simp
        moved := by simp }
  | cons candidate rest =>
      have chosen := isPreferred_iff_of_sorted sorted
      have preferred := (chosen candidate.entry.stub).mpr rfl
      have member : candidate ∈ (sortedCandidates now (run history) scenarios input : List _) := by
        rw [sorted]
        exact List.mem_cons_self
      exact {
        isSome_iff := iff_of_true rfl ⟨_, preferred.registered, preferred.holds⟩
        unchanged := by simp
        preferred_iff := by
          rintro resolution ⟨⟩
          exact chosen
        report := by
          rintro resolution ⟨⟩
          exact (mem_candidates.mp (List.mem_mergeSort.mp member)).2.2
        moved := by
          rintro resolution ⟨⟩
          exact Scenarios.moved_move scenarios _ }

/-- Both kinds of stubs, which have priority five unless they declare another. -/
theorem resolve_chooses_preferred (R : Type) [Scalar R] (now : Calendar.Instant)
    (scenarios : Scenarios) :
    (∀ (history : List (StoreOperation HttpStub)) (request : Http.Request),
      IsChoice (fun stub : HttpStub => stub.priority.getD 5) history now scenarios request
        ((run history).resolve now scenarios request :
          Option (Resolution HttpStub R) × Scenarios)) ∧
    ∀ (history : List (StoreOperation MessageStub)) (message : ChannelMessage),
      IsChoice (fun stub : MessageStub => stub.priority.getD 5) history now scenarios message
        ((run history).resolve now scenarios message :
          Option (Resolution MessageStub R) × Scenarios) :=
  ⟨fun history request => isChoice_resolve history now scenarios request,
    fun history message => isChoice_resolve history now scenarios message⟩

end StubStore

end ServiceStub
