import ServiceStub.Proofs.Stub.Exactness
import ServiceStub.Proofs.Stub.Ranking
import ServiceStub.Proofs.Stub.Resolution

/-!
What came close against what was chosen.  A stub is reported at distance zero just if it could
have been chosen.
-/

namespace ServiceStub

open FieldMatch (Decide)

namespace NearMiss

variable {α : Type} {misses : List (NearMiss α Rat)}

def atZero (miss : NearMiss α Rat) : Bool := miss.report.isExact

def sorted (misses : List (NearMiss α Rat)) : List (NearMiss α Rat) :=
  misses.mergeSort fun left right => Scalar.le left.report.distance right.report.distance

private theorem rank_eq (limit : Nat) (misses : List (NearMiss α Rat)) :
    rank limit misses = (sorted misses).take limit :=
  rfl

private theorem atZero_iff {miss : NearMiss α Rat} : miss.atZero ↔ miss.report.distance = 0 :=
  MatchResult.isExact_iff

private theorem sorted_pairwise (misses : List (NearMiss α Rat)) :
    (sorted misses).Pairwise fun left right => left.report.distance ≤ right.report.distance := by
  have ascending : (sorted misses).Pairwise fun left right =>
      Scalar.le left.report.distance right.report.distance :=
    List.pairwise_mergeSort le_trans_distance le_total_distance misses
  exact ascending.imp fun smaller => by simpa using smaller

private theorem filter_sorted (misses : List (NearMiss α Rat)) :
    (sorted misses).filter atZero = misses.filter atZero := by
  have level : (misses.filter atZero).Pairwise fun left right =>
      Scalar.le left.report.distance right.report.distance := by
    refine List.pairwise_of_forall_mem_list fun left leftMember right rightMember => ?_
    rw [atZero_iff.mp (List.mem_filter.mp leftMember).2,
      atZero_iff.mp (List.mem_filter.mp rightMember).2]
    rfl
  -- The sort is stable, so what is level keeps its order.
  have kept : (misses.filter atZero).Sublist (sorted misses) :=
    List.sublist_mergeSort le_trans_distance le_total_distance level List.filter_sublist
  have filtered := kept.filter atZero
  simp only [List.filter_filter, Bool.and_self] at filtered
  exact (filtered.eq_of_length ((List.mergeSort_perm ..).symm.filter atZero).length_eq).symm

private theorem filter_append_filter
    (ascending : misses.Pairwise fun left right => left.report.distance ≤ right.report.distance)
    (nonneg : ∀ miss ∈ misses, 0 ≤ miss.report.distance) :
    misses.filter atZero ++ misses.filter (fun miss => !miss.atZero) = misses := by
  induction misses with
  | nil => rfl
  | cons miss rest induction =>
      obtain ⟨least, ascendingRest⟩ := List.pairwise_cons.mp ascending
      obtain ⟨nonnegFirst, nonnegRest⟩ := List.forall_mem_cons.mp nonneg
      by_cases zero : miss.atZero
      · simpa [zero] using induction ascendingRest nonnegRest
      · have positive : ∀ other ∈ miss :: rest, ¬ other.atZero := by
          intro other member same
          rw [atZero_iff] at zero same
          rcases List.mem_cons.mp member with rfl | later
          · exact zero same
          · exact zero (le_antisymm (same ▸ least other later) nonnegFirst)
        rw [List.filter_eq_nil_iff.mpr positive, List.nil_append, List.filter_eq_self]
        simpa using positive

/-- Of the entries at distance zero the first ones are listed, as many as the limit permits. -/
theorem filter_rank (limit : Nat) (nonneg : ∀ miss ∈ misses, 0 ≤ miss.report.distance) :
    (rank limit misses).filter atZero = (misses.filter atZero).take limit := by
  have parts := filter_append_filter (sorted_pairwise misses) fun miss member =>
    nonneg miss (List.mem_mergeSort.mp member)
  rw [filter_sorted] at parts
  have near : ((misses.filter atZero).take limit).filter atZero =
      (misses.filter atZero).take limit :=
    List.filter_eq_self.mpr fun miss member =>
      (List.mem_filter.mp (List.mem_of_mem_take member)).2
  have far (count : Nat) :
      (((sorted misses).filter fun miss => !miss.atZero).take count).filter atZero = [] := by
    refine List.filter_eq_nil_iff.mpr fun miss member => ?_
    simpa using (List.mem_filter.mp (List.mem_of_mem_take member)).2
  rw [rank_eq, ← parts, List.take_append, List.filter_append, near, far, List.append_nil]

private theorem perm_rank {limit : Nat} (within : misses.length ≤ limit) :
    (rank limit misses).Perm misses := by
  rw [rank_eq, List.take_of_length_le (by rwa [sorted, List.length_mergeSort])]
  exact List.mergeSort_perm ..

private theorem mem_of_mem_rank {limit : Nat} {miss : NearMiss α Rat}
    (member : miss ∈ rank limit misses) :
    miss ∈ misses :=
  List.mem_mergeSort.mp (List.mem_of_mem_take member)

end NearMiss

/-- Stubs whose reports are made of rows that count and lie between zero and one. -/
class GradedStub (S : Type) {Input : Type} [Stub S Input] : Prop where
  decide_rows (now : Calendar.Instant) (stub : S) (input : Input) :
    ∃ holds, Decide (Stub.evaluate now stub input : MatchReport Rat).rows holds

instance : GradedStub HttpStub where
  decide_rows now stub request := ⟨_, stub.request.decide_rows now request⟩

instance : GradedStub MessageStub where
  decide_rows now stub message :=
    ⟨_, (stub.decide_channelRows now message).append (stub.decide_bodyRows now message)⟩

variable {S Input : Type} [Stub S Input] [GradedStub S]

private theorem decide_evaluate (now : Calendar.Instant) (stub : S) (input : Input) :
    Decide (Stub.evaluate now stub input : MatchReport Rat).rows
      (Stub.evaluate now stub input : MatchReport Rat).isExact := by
  obtain ⟨holds, rows⟩ := GradedStub.decide_rows now stub input
  exact rows.congr rows.report.isExact_iff.symm

private theorem decide_scenarioRow (spec : ScenarioSpec) (required current : String) :
    Decide [spec.row required current] (spec.permits current = true) where
  weight_pos := by simp [ScenarioSpec.row]
  inRange := by simpa [ScenarioSpec.row] using MatchResult.inRange_of _
  isExact_iff := by simp [ScenarioSpec.row]

/-- The row for the scenario makes a report exact just where the stub could be chosen. -/
theorem decide_reportIn (now : Calendar.Instant) (scenarios : Scenarios) (stub : S)
    (input : Input) :
    Decide (Stub.reportIn now scenarios stub input : MatchReport Rat).rows
      (StubStore.Accepts Rat now scenarios input stub) := by
  have rows := decide_evaluate now stub input
  cases joined : Stub.scenario stub with
  | none => simpa [Stub.reportIn, StubStore.Accepts, joined, Scenarios.permits] using rows
  | some spec =>
      cases declared : spec.requiredState with
      | none =>
          simpa [Stub.reportIn, StubStore.Accepts, joined, declared, Scenarios.permits,
            ScenarioSpec.permits] using rows
      | some required =>
          have both := rows.append
            (decide_scenarioRow spec required (scenarios.stateOf spec.name))
          rw [StubStore.Accepts, Stub.reportIn, joined]
          simpa only [declared, MatchReport.add, Scenarios.permits, and_comm] using both

private theorem decides_reportIn (now : Calendar.Instant) (scenarios : Scenarios) (stub : S)
    (input : Input) :
    (Stub.reportIn now scenarios stub input : MatchReport Rat).result.Decides
      (StubStore.Accepts Rat now scenarios input stub) :=
  (decide_reportIn now scenarios stub input).report

namespace StubStore

variable {store : StubStore S} {now : Calendar.Instant} {scenarios : Scenarios} {input : Input}

omit [GradedStub S] in
private theorem mem_nearMisses {limit : Nat} {miss : NearMiss S Rat}
    (member : miss ∈ store.nearMisses now limit scenarios input) :
    miss.subject ∈ store.toList ∧ miss.report = Stub.reportIn now scenarios miss.subject input := by
  obtain ⟨stub, registered, rfl⟩ := List.mem_map.mp (NearMiss.mem_of_mem_rank member)
  exact ⟨registered, rfl⟩

omit [GradedStub S] in
private theorem resolve_isSome_iff :
    (store.resolve now scenarios input : Option (Resolution S Rat) × Scenarios).1.isSome ↔
      ∃ stub ∈ store.toList, Accepts Rat now scenarios input stub := by
  have candidate_iff (candidate : Candidate S Rat) :
      candidate ∈ sortedCandidates now store scenarios input ↔
        candidate ∈ store.candidates now scenarios input := List.mem_mergeSort
  rw [resolve_eq]
  cases sorted : (sortedCandidates now store scenarios input : List (Candidate S Rat)) with
  | nil =>
      refine iff_of_false (by simp) ?_
      rintro ⟨stub, registered, accepts⟩
      obtain ⟨entry, member, rfl⟩ := mem_toList.mp registered
      have listed := (candidate_iff ⟨entry, Stub.evaluate now entry.stub input⟩).mpr
        (mem_candidates.mpr ⟨member, accepts, rfl⟩)
      rw [sorted] at listed
      exact List.not_mem_nil listed
  | cons candidate rest =>
      refine iff_of_true rfl ?_
      have listed := (candidate_iff candidate).mp (sorted ▸ List.mem_cons_self)
      obtain ⟨member, accepts, -⟩ := mem_candidates.mp listed
      exact ⟨candidate.entry.stub, mem_toList.mpr ⟨candidate.entry, member, rfl⟩, accepts⟩

private theorem atZero_iff_accepts {limit : Nat} {miss : NearMiss S Rat}
    (member : miss ∈ store.nearMisses now limit scenarios input) :
    miss.report.distance = 0 ↔ Accepts Rat now scenarios input miss.subject := by
  rw [(mem_nearMisses member).2]
  exact MatchResult.isExact_iff.symm.trans (decides_reportIn ..).isExact_iff

/-- What near misses tell about a choice, if there is room for all stubs: every stub is reported
once, and it is at distance zero just if it could have been chosen. -/
structure ToldBy (now : Calendar.Instant) (store : StubStore S) (scenarios : Scenarios)
    (input : Input) (misses : List (NearMiss S Rat)) : Prop where
  reported : (misses.map NearMiss.subject).Perm store.toList
  atZero_iff : ∀ stub, (∃ miss ∈ misses, miss.subject = stub ∧ miss.report.distance = 0) ↔
    stub ∈ store.toList ∧ Accepts Rat now scenarios input stub
  head_iff : (∃ miss ∈ misses.head?, miss.report.distance = 0) ↔
    (store.resolve now scenarios input : Option (Resolution S Rat) × Scenarios).1.isSome

private theorem distance_nonneg {limit : Nat} {miss : NearMiss S Rat}
    (member : miss ∈ store.nearMisses now limit scenarios input) : 0 ≤ miss.report.distance := by
  rw [(mem_nearMisses member).2]
  exact (decides_reportIn ..).nonneg

omit [GradedStub S] in
private theorem perm_nearMisses {limit : Nat} (room : store.size ≤ limit) (now : Calendar.Instant)
    (scenarios : Scenarios) (input : Input) :
    (store.nearMisses now limit scenarios input).Perm
      (store.toList.map fun stub =>
        (⟨stub, Stub.reportIn now scenarios stub input⟩ : NearMiss S Rat)) := by
  apply NearMiss.perm_rank
  rwa [List.length_map, toList, List.length_map]

private theorem exists_atZero_iff {limit : Nat} (room : store.size ≤ limit) (stub : S) :
    (∃ miss ∈ (store.nearMisses now limit scenarios input : List (NearMiss S Rat)),
        miss.subject = stub ∧ miss.report.distance = 0) ↔
      stub ∈ store.toList ∧ Accepts Rat now scenarios input stub := by
  constructor
  · rintro ⟨miss, member, rfl, zero⟩
    exact ⟨(mem_nearMisses member).1, (atZero_iff_accepts member).mp zero⟩
  · rintro ⟨registered, accepts⟩
    have member := (perm_nearMisses room now scenarios input).mem_iff.mpr
      (List.mem_map_of_mem registered)
    exact ⟨_, member, rfl, (atZero_iff_accepts member).mpr accepts⟩

private theorem head_atZero_iff {limit : Nat} :
    (∃ miss ∈ (store.nearMisses now limit scenarios input : List (NearMiss S Rat)).head?,
        miss.report.distance = 0) ↔
      ∃ miss ∈ (store.nearMisses now limit scenarios input : List (NearMiss S Rat)),
        miss.report.distance = 0 := by
  have ascending : (store.nearMisses now limit scenarios input).Pairwise _ :=
    (NearMiss.sorted_pairwise _).sublist (List.take_sublist ..)
  constructor
  · rintro ⟨miss, first, zero⟩
    exact ⟨miss, List.mem_of_mem_head? first, zero⟩
  · rintro ⟨miss, member, zero⟩
    cases misses : (store.nearMisses now limit scenarios input : List (NearMiss S Rat)) with
    | nil => simp [misses] at member
    | cons first rest =>
        rw [misses] at ascending member
        have nonneg := distance_nonneg (misses ▸ List.mem_cons_self)
        refine ⟨first, rfl, ?_⟩
        rcases List.mem_cons.mp member with rfl | later
        · exact zero
        · exact le_antisymm (zero ▸ (List.pairwise_cons.mp ascending).1 miss later) nonneg

theorem toldBy_nearMisses {limit : Nat} (room : store.size ≤ limit) :
    ToldBy now store scenarios input (store.nearMisses now limit scenarios input) where
  reported := by
    have subjects := (perm_nearMisses room now scenarios input).map NearMiss.subject
    simpa only [List.map_map, Function.comp_def, List.map_id'] using subjects
  atZero_iff := exists_atZero_iff room
  head_iff := by
    rw [head_atZero_iff, resolve_isSome_iff]
    constructor
    · rintro ⟨miss, member, zero⟩
      exact ⟨miss.subject, (exists_atZero_iff room _).mp ⟨miss, member, rfl, zero⟩⟩
    · rintro ⟨stub, accepted⟩
      obtain ⟨miss, member, -, zero⟩ := (exists_atZero_iff room stub).mpr accepted
      exact ⟨miss, member, zero⟩

theorem not_exact_of_unmatched {limit : Nat}
    (unmatched :
      (store.resolve now scenarios input : Option (Resolution S Rat) × Scenarios).1 = none)
    {miss : NearMiss S Rat} (member : miss ∈ store.nearMisses now limit scenarios input) :
    0 < miss.report.distance ∧ ∃ row ∈ miss.report.rows, row.result.isExact = false := by
  obtain ⟨registered, report⟩ := mem_nearMisses member
  have refused : ¬ Accepts Rat now scenarios input miss.subject := by
    intro accepts
    have chosen := resolve_isSome_iff.mpr ⟨miss.subject, registered, accepts⟩
    simp [unmatched] at chosen
  constructor
  · refine lt_of_le_of_ne ?_ fun zero => refused ((atZero_iff_accepts member).mp zero.symm)
    rw [report]
    exact (decides_reportIn ..).nonneg
  · rw [← (decide_reportIn now scenarios miss.subject input).isExact_iff, ← report] at refused
    simpa using refused

end StubStore

end ServiceStub
