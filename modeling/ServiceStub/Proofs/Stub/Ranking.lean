import ServiceStub.Proofs.Distance
import ServiceStub.Proofs.Stub.History
import ServiceStub.Stub.NearMiss

/-!
Near misses by distance.  Nearer ones are listed first, level ones in the order they came in, and
what is left out comes after all that is listed.
-/

namespace ServiceStub

theorem pairwise_zipIdx {α : Type} (items : List α) :
    items.zipIdx.Pairwise fun first second => first.2 < second.2 := by
  rw [← List.pairwise_map (f := Prod.snd) (R := (· < ·)), List.zipIdx_map_snd]
  exact List.pairwise_lt_range' 1

private theorem pairwise_mergeSort_stable {α : Type} {le : α → α → Bool} {before : α → α → Prop}
    (trans : ∀ first second third, le first second → le second third → le first third)
    (total : ∀ first second, le first second || le second first) {items : List α}
    (ordered : items.Pairwise before) :
    (items.mergeSort le).Pairwise fun first second =>
      le first second ∧ (le second first → before first second) := by
  -- Items that occur twice are told apart by their places.
  have perm := List.mergeSort_perm items.zipIdx (List.zipIdxLE le)
  have sorted := List.pairwise_mergeSort (List.zipIdxLE_trans trans) (List.zipIdxLE_total total)
    items.zipIdx
  have apart : (items.zipIdx.mergeSort (List.zipIdxLE le)).Pairwise
      fun first second => first.2 ≠ second.2 :=
    ((pairwise_zipIdx items).imp Nat.ne_of_lt).perm perm.symm Ne.symm
  rw [← List.mergeSort_zipIdx, List.pairwise_map]
  refine (sorted.and apart).imp_of_mem ?_
  rintro ⟨first, i⟩ ⟨second, j⟩ firstMember secondMember ⟨smaller, places⟩
  rw [perm.mem_iff, List.mk_mem_zipIdx_iff_getElem?] at firstMember secondMember
  obtain ⟨iBound, rfl⟩ := List.getElem?_eq_some_iff.mp firstMember
  obtain ⟨jBound, rfl⟩ := List.getElem?_eq_some_iff.mp secondMember
  simp only [List.zipIdxLE] at smaller
  split at smaller
  · next below =>
      refine ⟨below, fun level => ?_⟩
      rw [if_pos level, decide_eq_true_iff] at smaller
      exact List.pairwise_iff_getElem.mp ordered i j iBound jBound (lt_of_le_of_ne smaller places)
  · exact absurd smaller Bool.false_ne_true

variable {R : Type} [Scalar R] [OrderedScalar R]

private theorem MatchReport.finite_distance (report : MatchReport R) :
    Scalar.isFinite report.distance :=
  MatchResult.finite_weightedMean _

/-- The first item is at most as far away as the second, and if they are level it came first. -/
structure Precedes {α : Type} (distance : α → R) (before : α → α → Prop) (first second : α) :
    Prop where
  le : Scalar.le (distance first) (distance second)
  before_of_level : Scalar.eq (distance first) (distance second) → before first second

/-- The items fall into those that are listed, as many as the limit permits, and those that are
left out.  What is listed is in order, and what is left out comes after it. -/
structure Ranking {α : Type} (limit : Nat) (distance : α → R) (before : α → α → Prop)
    (items listed omitted : List α) : Prop where
  perm : (listed ++ omitted).Perm items
  length_eq : listed.length = min limit items.length
  ordered : listed.Pairwise (Precedes distance before)
  cut : ∀ first ∈ listed, ∀ second ∈ omitted, Precedes distance before first second

namespace NearMiss

variable {α β : Type}

theorem le_trans_distance (first second third : NearMiss α R)
    (lower : Scalar.le first.report.distance second.report.distance)
    (upper : Scalar.le second.report.distance third.report.distance) :
    Scalar.le first.report.distance third.report.distance := by
  have finite (miss : NearMiss α R) := miss.report.finite_distance
  rw [Scalar.le_iff (finite _) (finite _)] at lower upper ⊢
  exact lower.trans upper

theorem le_total_distance (left right : NearMiss α R) :
    (Scalar.le left.report.distance right.report.distance ||
      Scalar.le right.report.distance left.report.distance) := by
  have finite (miss : NearMiss α R) := miss.report.finite_distance
  rw [Bool.or_eq_true, Scalar.le_iff (finite _) (finite _), Scalar.le_iff (finite _) (finite _)]
  exact le_total _ _

private theorem le_of_level {left right : NearMiss α R}
    (level : Scalar.eq left.report.distance right.report.distance) :
    Scalar.le right.report.distance left.report.distance := by
  have finite (miss : NearMiss α R) := miss.report.finite_distance
  rw [OrderedScalar.eq_iff (finite _) (finite _)] at level
  rw [Scalar.le_iff (finite _) (finite _)]
  exact level.ge

theorem exists_ranking (limit : Nat) {before : β → β → Prop} {items : List β}
    (ordered : items.Pairwise before) (missOf : β → NearMiss α R) :
    ∃ listed omitted,
      Ranking limit (fun item => (missOf item).report.distance) before items listed omitted ∧
        rank limit (items.map missOf) = listed.map missOf := by
  let nearer (left right : β) := Scalar.le (missOf left).report.distance
    (missOf right).report.distance
  have stable : (items.mergeSort nearer).Pairwise fun first second =>
      nearer first second ∧ (nearer second first → before first second) :=
    pairwise_mergeSort_stable
      (fun first second third => le_trans_distance (missOf first) (missOf second) (missOf third))
      (fun left right => le_total_distance (missOf left) (missOf right)) ordered
  have sorted : (items.mergeSort nearer).Pairwise
      (Precedes (fun item => (missOf item).report.distance) before) :=
    stable.imp fun ⟨below, inOrder⟩ => ⟨below, fun level => inOrder (le_of_level level)⟩
  rw [← List.take_append_drop limit (items.mergeSort nearer), List.pairwise_append] at sorted
  obtain ⟨listedOrdered, -, cut⟩ := sorted
  refine ⟨(items.mergeSort nearer).take limit, (items.mergeSort nearer).drop limit,
    { perm := ?_, length_eq := ?_, ordered := listedOrdered, cut }, ?_⟩
  · rw [List.take_append_drop]
    exact List.mergeSort_perm items nearer
  · rw [List.length_take, List.length_mergeSort]
  · have mapped : (items.mergeSort nearer).map missOf = (items.map missOf).mergeSort
        fun left right => Scalar.le left.report.distance right.report.distance :=
      List.map_mergeSort fun _ _ _ _ => rfl
    rw [rank, List.map_take, mapped]

end NearMiss

variable {S Input : Type} [Stub S Input]

def Stub.scenarioRow? (scenarios : Scenarios) (stub : S) : Option (FieldMatch R) := do
  let spec ← Stub.scenario stub
  let required ← spec.requiredState
  return spec.row required (scenarios.stateOf spec.name)

omit [OrderedScalar R] in
private theorem Stub.rows_reportIn (now : Calendar.Instant) (scenarios : Scenarios) (stub : S)
    (input : Input) :
    (Stub.reportIn now scenarios stub input : MatchReport R).rows =
      (Stub.evaluate now stub input : MatchReport R).rows ++
        (Stub.scenarioRow? scenarios stub).toList := by
  rw [reportIn, scenarioRow?]
  cases Stub.scenario stub with
  | none => exact (List.append_nil _).symm
  | some spec =>
      cases declared : spec.requiredState with
      | none => simp [declared]
      | some required => simp [declared, MatchReport.add]

namespace StubStore

/-- A list of the stubs nearest to an input, as many as the limit permits.  Nearer ones come first
and level ones in the order of their registration, and so all that is left out comes after all
that is listed.  A stub is as far away as its rows are in the mean, among them the one for its
scenario. -/
structure ListsNearest (now : Calendar.Instant) (limit : Nat) (history : List (StoreOperation S))
    (scenarios : Scenarios) (input : Input) (misses : List (NearMiss S R)) : Prop where
  length_eq : misses.length = min limit (run history).size
  registered : ∀ miss ∈ misses, miss.subject ∈ (run history).toList
  distinct : (misses.map fun miss => Stub.id miss.subject).Nodup
  ascending : misses.Pairwise fun first second =>
    Scalar.le first.report.distance second.report.distance
  level : misses.Pairwise fun first second =>
    Scalar.eq first.report.distance second.report.distance →
      RegisteredBefore history (Stub.id first.subject) (Stub.id second.subject)
  omitted : ∀ stub ∈ (run history).toList,
    Stub.id stub ∉ misses.map (fun miss => Stub.id miss.subject) →
      let report : MatchReport R := Stub.reportIn now scenarios stub input
      ∀ miss ∈ misses, Scalar.le miss.report.distance report.distance ∧
        (Scalar.eq miss.report.distance report.distance →
          RegisteredBefore history (Stub.id miss.subject) (Stub.id stub))
  rows_eq : ∀ miss ∈ misses, miss.report.rows =
    (Stub.evaluate now miss.subject input : MatchReport R).rows ++
      (Stub.scenarioRow? scenarios miss.subject).toList
  result_eq : ∀ miss ∈ misses,
    miss.report.result = .weightedMean (miss.report.rows.map fun row => (row.result, row.weight))

private theorem pairwise_registeredBefore (history : List (StoreOperation S)) :
    (run history).toList.Pairwise fun first second =>
      RegisteredBefore history (Stub.id first) (Stub.id second) := by
  rw [toList, List.pairwise_map]
  exact (numbered_run history).ascending.imp_of_mem fun firstMember secondMember smaller =>
    (seq_lt_iff_registeredBefore history firstMember secondMember).mp smaller

theorem listsNearest_nearMisses (now : Calendar.Instant) (limit : Nat)
    (history : List (StoreOperation S)) (scenarios : Scenarios) (input : Input) :
    ListsNearest now limit history scenarios input
      ((run history).nearMisses now limit scenarios input : List (NearMiss S R)) := by
  obtain ⟨listed, omitted, ranking, misses⟩ :=
    NearMiss.exists_ranking limit (pairwise_registeredBefore history) fun stub : S =>
      (⟨stub, Stub.reportIn now scenarios stub input⟩ : NearMiss S R)
  have ids : (listed.map Stub.id).Nodup := by
    have distinct := (ranking.perm.map Stub.id).nodup_iff.mpr (numbered_run history).distinct
    rw [List.map_append] at distinct
    exact (List.nodup_append.mp distinct).1
  rw [nearMisses, misses]
  exact
    { length_eq := by
        rw [List.length_map, ranking.length_eq, toList, List.length_map, size]
      registered := List.forall_mem_map.mpr fun stub member =>
        ranking.perm.mem_iff.mp (List.mem_append_left omitted member)
      distinct := by rwa [List.map_map]
      ascending := List.pairwise_map.mpr (ranking.ordered.imp Precedes.le)
      level := List.pairwise_map.mpr (ranking.ordered.imp Precedes.before_of_level)
      omitted := fun stub registered leftOut => List.forall_mem_map.mpr fun near member => by
        rcases List.mem_append.mp (ranking.perm.mem_iff.mpr registered) with isListed | isOmitted
        · exact absurd (List.mem_map.mpr ⟨_, List.mem_map_of_mem isListed, rfl⟩) leftOut
        · have precedes := ranking.cut near member stub isOmitted
          exact ⟨precedes.le, precedes.before_of_level⟩
      rows_eq := List.forall_mem_map.mpr fun stub _ => Stub.rows_reportIn now scenarios stub input
      result_eq := fun _ _ => rfl }

end StubStore

end ServiceStub
