import ServiceStub.Matching
import Mathlib.Data.Finset.Card
import Mathlib.Data.Finset.Image
import Mathlib.Data.Fintype.EquivFin
import Mathlib.Tactic.ByContra

/-!
The pairing found by augmenting paths is a largest one.  A search that fails has seen columns whose
rows, together with the row that is left over, reach no other column, so that no pairing can do
better.
-/

namespace ServiceStub.Matching

variable {edges : List (List Bool)} {columnCount row : Nat} {start final : Pairing}

namespace Pairing

def ownerOf (pairing : Pairing) (column : Nat) : Option Nat := pairing.owner.getD column none

theorem ownerOf_assign {pairing : Pairing} {column : Nat} (bound : column < pairing.owner.length)
    (row other : Nat) :
    (pairing.assign column row).ownerOf other =
      if other = column then some row else pairing.ownerOf other := by
  by_cases same : other = column
  · subst same
    simp [ownerOf, assign, bound]
  · simp only [ownerOf, assign, List.getD_eq_getElem?_getD, List.getElem?_set_ne (Ne.symm same),
      if_neg same]

theorem lt_of_ownerOf {pairing : Pairing} {column row : Nat}
    (owned : pairing.ownerOf column = some row) : column < pairing.owner.length := by
  by_contra outside
  simp [ownerOf, not_lt.mp outside] at owned

end Pairing

/-- Columns are paired along edges, and no two unseen ones with the same row. -/
structure Sound (edges : List (List Bool)) (columnCount : Nat) (pairing : Pairing) : Prop where
  length : pairing.owner.length = columnCount
  edge : ∀ column row, pairing.ownerOf column = some row → edge edges row column
  injective : ∀ column other row, column ∉ pairing.seen → other ∉ pairing.seen →
    pairing.ownerOf column = some row → pairing.ownerOf other = some row → column = other

def Paired (seen : List Nat) (pairing : Pairing) (row : Nat) : Prop :=
  ∃ column, column ∉ seen ∧ pairing.ownerOf column = some row

/-- A search that succeeds pairs one more row among the columns that were unseen at its start. -/
structure Augmented (edges : List (List Bool)) (row : Nat) (start final : Pairing) : Prop where
  length : final.owner.length = start.owner.length
  edge : ∀ column other, final.ownerOf column = some other → edge edges other column
  kept : ∀ column ∈ start.seen, final.ownerOf column = start.ownerOf column
  injective : ∀ column other owner, column ∉ start.seen → other ∉ start.seen →
    final.ownerOf column = some owner → final.ownerOf other = some owner → column = other
  paired_iff : ∀ other,
    Paired start.seen final other ↔ other = row ∨ Paired start.seen start other

/-- A search that fails changes no pair.  The columns that it has seen are all paired, and their
rows reach no column that is still unseen, nor does the row itself among the columns tried. -/
structure Exhausted (edges : List (List Bool)) (columnCount row : Nat) (tried : List Nat)
    (start final : Pairing) : Prop where
  owner : final.owner = start.owner
  seen : start.seen ⊆ final.seen
  closed : ∀ column ∈ final.seen, column ∉ start.seen → column < columnCount ∧
    ∃ other, start.ownerOf column = some other ∧
      ∀ reached < columnCount, Matching.edge edges other reached → reached ∈ final.seen
  reached : ∀ column ∈ tried, Matching.edge edges row column → column ∈ final.seen

def Searched (edges : List (List Bool)) (columnCount row : Nat) (tried : List Nat)
    (start : Pairing) (outcome : Bool × Pairing) : Prop :=
  if outcome.1 then Augmented edges row start outcome.2
  else Exhausted edges columnCount row tried start outcome.2

/-- What a search did with fewer columns unseen holds from where more of them were. -/
theorem Augmented.widen {middle : Pairing} (augmented : Augmented edges row middle final)
    (sound : Sound edges columnCount start) (unpaired : ¬ Paired start.seen start row)
    (sameOwner : middle.owner = start.owner) (seen : start.seen ⊆ middle.seen) :
    Augmented edges row start final := by
  have sameOwnerOf (column : Nat) : middle.ownerOf column = start.ownerOf column := by
    rw [Pairing.ownerOf, sameOwner, Pairing.ownerOf]
  -- a column seen in between has kept its row, which no column still unseen is paired with
  have apart (column other owner : Nat) (unseen : column ∉ start.seen)
      (between : column ∈ middle.seen) (otherUnseen : other ∉ middle.seen)
      (owned : final.ownerOf column = some owner)
      (otherOwned : final.ownerOf other = some owner) : False := by
    rw [augmented.kept column between, sameOwnerOf] at owned
    rcases (augmented.paired_iff owner).mp ⟨other, otherUnseen, otherOwned⟩ with
      same | ⟨former, formerUnseen, formerOwned⟩
    · exact unpaired ⟨column, unseen, same ▸ owned⟩
    · rw [sameOwnerOf] at formerOwned
      have same := sound.injective column former owner unseen
        (fun member => formerUnseen (seen member)) owned formerOwned
      exact formerUnseen (same ▸ between)
  refine {
    length := by rw [augmented.length, sameOwner]
    edge := augmented.edge
    kept := fun column member => by rw [augmented.kept column (seen member), sameOwnerOf]
    injective := ?_
    paired_iff := ?_ }
  · intro column other owner unseen otherUnseen owned otherOwned
    by_cases between : column ∈ middle.seen
    · by_cases otherBetween : other ∈ middle.seen
      · rw [augmented.kept column between, sameOwnerOf] at owned
        rw [augmented.kept other otherBetween, sameOwnerOf] at otherOwned
        exact sound.injective column other owner unseen otherUnseen owned otherOwned
      · exact (apart column other owner unseen between otherBetween owned otherOwned).elim
    · by_cases otherBetween : other ∈ middle.seen
      · exact (apart other column owner otherUnseen otherBetween between otherOwned owned).elim
      · exact augmented.injective column other owner between otherBetween owned otherOwned
  · intro other
    constructor
    · rintro ⟨column, unseen, owned⟩
      by_cases between : column ∈ middle.seen
      · rw [augmented.kept column between, sameOwnerOf] at owned
        exact .inr ⟨column, unseen, owned⟩
      · rcases (augmented.paired_iff other).mp ⟨column, between, owned⟩ with
          same | ⟨former, formerUnseen, formerOwned⟩
        · exact .inl same
        · rw [sameOwnerOf] at formerOwned
          exact .inr ⟨former, fun member => formerUnseen (seen member), formerOwned⟩
    · intro paired
      by_cases between : ∃ column ∈ middle.seen, column ∉ start.seen ∧
          start.ownerOf column = some other
      · obtain ⟨column, member, unseen, owned⟩ := between
        exact ⟨column, unseen, by rw [augmented.kept column member, sameOwnerOf, owned]⟩
      · have still : other = row ∨ Paired middle.seen middle other := by
          refine paired.imp_right fun ⟨column, unseen, owned⟩ => ⟨column, ?_, ?_⟩
          · exact fun member => between ⟨column, member, unseen, owned⟩
          · rw [sameOwnerOf, owned]
        obtain ⟨column, unseen, owned⟩ := (augmented.paired_iff other).mpr still
        exact ⟨column, fun member => unseen (seen member), owned⟩

private theorem augmented_assign {column : Nat} (sound : Sound edges columnCount start)
    (unpaired : ¬ Paired start.seen start row) (bound : column < columnCount)
    (unseen : column ∉ start.seen) (edge : Matching.edge edges row column)
    (free : start.ownerOf column = none) :
    Augmented edges row start (Pairing.assign { start with seen := column :: start.seen }
      column row) := by
  have ownerOf (other : Nat) :
      (Pairing.assign { start with seen := column :: start.seen } column row).ownerOf other =
        if other = column then some row else start.ownerOf other :=
    Pairing.ownerOf_assign (by rw [sound.length]; exact bound) row other
  refine {
    length := by simp [Pairing.assign]
    edge := ?_
    kept := ?_
    injective := ?_
    paired_iff := ?_ }
  · intro other owner owned
    rw [ownerOf] at owned
    split at owned
    · next same => rwa [← Option.some.inj owned, same]
    · exact sound.edge other owner owned
  · intro other member
    have different : other ≠ column := fun same => unseen (same ▸ member)
    rw [ownerOf, if_neg different]
  · intro first second owner firstUnseen secondUnseen firstOwned secondOwned
    rw [ownerOf] at firstOwned secondOwned
    split at firstOwned
    · next firstSame =>
        split at secondOwned
        · next secondSame => rw [firstSame, secondSame]
        · exact absurd ⟨second, secondUnseen, firstOwned ▸ secondOwned⟩ unpaired
    · split at secondOwned
      · exact absurd ⟨first, firstUnseen, secondOwned ▸ firstOwned⟩ unpaired
      · exact sound.injective first second owner firstUnseen secondUnseen firstOwned secondOwned
  · intro other
    constructor
    · rintro ⟨found, foundUnseen, owned⟩
      rw [ownerOf] at owned
      split at owned
      · exact .inl (Option.some.inj owned).symm
      · exact .inr ⟨found, foundUnseen, owned⟩
    · rintro (rfl | ⟨found, foundUnseen, owned⟩)
      · exact ⟨column, unseen, by rw [ownerOf, if_pos rfl]⟩
      · refine ⟨found, foundUnseen, ?_⟩
        rw [ownerOf, if_neg, owned]
        rintro rfl
        rw [free] at owned
        exact nomatch owned

/-- A row takes over a column whose row has found another one. -/
theorem Augmented.assign {column other : Nat} (unpaired : ¬ Paired start.seen start row)
    (unseen : column ∉ start.seen)
    (edge : Matching.edge edges row column) (taken : start.ownerOf column = some other)
    (moved : Augmented edges other { start with seen := column :: start.seen } final) :
    Augmented edges row start (final.assign column row) := by
  have bound : column < final.owner.length := by
    rw [moved.length]
    exact Pairing.lt_of_ownerOf taken
  have ownerOf (found : Nat) : (final.assign column row).ownerOf found =
      if found = column then some row else final.ownerOf found :=
    Pairing.ownerOf_assign bound row found
  have others {found : Nat} (foundUnseen : found ∉ start.seen) (different : found ≠ column) :
      found ∉ column :: start.seen := by
    simp [foundUnseen, different]
  have notPaired : ¬ Paired (column :: start.seen) final row := by
    intro paired
    rcases (moved.paired_iff row).mp paired with same | ⟨found, foundUnseen, owned⟩
    · exact unpaired ⟨column, unseen, same ▸ taken⟩
    · exact unpaired ⟨found, fun member => foundUnseen (List.mem_cons_of_mem _ member), owned⟩
  refine {
    length := by simpa [Pairing.assign] using moved.length
    edge := ?_
    kept := ?_
    injective := ?_
    paired_iff := ?_ }
  · intro found owner owned
    rw [ownerOf] at owned
    split at owned
    · next same => rwa [← Option.some.inj owned, same]
    · exact moved.edge found owner owned
  · intro found member
    have different : found ≠ column := fun same => unseen (same ▸ member)
    rw [ownerOf, if_neg different]
    exact moved.kept found (List.mem_cons_of_mem _ member)
  · intro first second owner firstUnseen secondUnseen firstOwned secondOwned
    rw [ownerOf] at firstOwned secondOwned
    split at firstOwned
    · next firstSame =>
        split at secondOwned
        · next secondSame => rw [firstSame, secondSame]
        · next secondDifferent =>
            exact absurd ⟨second, others secondUnseen secondDifferent, firstOwned ▸ secondOwned⟩
              notPaired
    · next firstDifferent =>
        split at secondOwned
        · exact absurd ⟨first, others firstUnseen firstDifferent, secondOwned ▸ firstOwned⟩
            notPaired
        · next secondDifferent =>
            exact moved.injective first second owner (others firstUnseen firstDifferent)
              (others secondUnseen secondDifferent) firstOwned secondOwned
  · intro found
    constructor
    · rintro ⟨place, placeUnseen, owned⟩
      rw [ownerOf] at owned
      split at owned
      · exact .inl (Option.some.inj owned).symm
      · next different =>
          rcases (moved.paired_iff found).mp ⟨place, others placeUnseen different, owned⟩ with
            same | ⟨former, formerUnseen, formerOwned⟩
          · exact .inr ⟨column, unseen, same ▸ taken⟩
          · exact .inr ⟨former, fun member => formerUnseen (List.mem_cons_of_mem _ member),
              formerOwned⟩
    · rintro (rfl | ⟨former, formerUnseen, formerOwned⟩)
      · exact ⟨column, unseen, by rw [ownerOf, if_pos rfl]⟩
      · have still : Paired (column :: start.seen) final found := by
          refine (moved.paired_iff found).mpr ?_
          by_cases same : former = column
          · rw [same, taken] at formerOwned
            exact .inl (Option.some.inj formerOwned).symm
          · exact .inr ⟨former, others formerUnseen same, formerOwned⟩
        obtain ⟨place, placeUnseen, owned⟩ := still
        refine ⟨place, fun member => placeUnseen (List.mem_cons_of_mem _ member), ?_⟩
        have different : place ≠ column := by
          rintro rfl
          exact placeUnseen List.mem_cons_self
        rw [ownerOf, if_neg different, owned]

theorem Exhausted.nil : Exhausted edges columnCount row [] start start where
  owner := rfl
  seen := fun _ member => member
  closed _ member unseen := absurd member unseen
  reached := by simp

private theorem Exhausted.skip {column : Nat} {tried : List Nat}
    (noChoice : Matching.edge edges row column → column ∈ start.seen)
    (exhausted : Exhausted edges columnCount row tried start final) :
    Exhausted edges columnCount row (column :: tried) start final where
  owner := exhausted.owner
  seen := exhausted.seen
  closed := exhausted.closed
  reached := by
    intro found member edge
    rcases List.mem_cons.mp member with rfl | member
    · exact exhausted.seen (noChoice edge)
    · exact exhausted.reached found member edge

theorem Exhausted.cons {column other : Nat} {tried : List Nat} {middle : Pairing}
    (bound : column < columnCount) (taken : start.ownerOf column = some other)
    (stuck : Exhausted edges columnCount other (List.range columnCount)
      { start with seen := column :: start.seen } middle)
    (exhausted : Exhausted edges columnCount row tried middle final) :
    Exhausted edges columnCount row (column :: tried) start final := by
  have columnSeen : column ∈ final.seen := exhausted.seen (stuck.seen List.mem_cons_self)
  have sameOwnerOf (found : Nat) : middle.ownerOf found = start.ownerOf found := by
    rw [Pairing.ownerOf, stuck.owner, Pairing.ownerOf]
  refine {
    owner := exhausted.owner.trans stuck.owner
    seen := fun _ member => exhausted.seen (stuck.seen (List.mem_cons_of_mem _ member))
    closed := ?_
    reached := ?_ }
  · intro found member unseen
    by_cases between : found ∈ middle.seen
    · by_cases same : found = column
      · subst same
        refine ⟨bound, other, taken, fun reached inside edge => ?_⟩
        exact exhausted.seen (stuck.reached reached (List.mem_range.mpr inside) edge)
      · obtain ⟨inside, owner, owned, closed⟩ := stuck.closed found between (by simp [same, unseen])
        exact ⟨inside, owner, owned, fun reached inside edge =>
          exhausted.seen (closed reached inside edge)⟩
    · obtain ⟨inside, owner, owned, closed⟩ := exhausted.closed found member between
      exact ⟨inside, owner, sameOwnerOf found ▸ owned, closed⟩
  · intro found member edge
    rcases List.mem_cons.mp member with rfl | member
    · exact columnSeen
    · exact exhausted.reached found member edge

def unseenCount (columnCount : Nat) (seen : List Nat) : Nat :=
  (Finset.range columnCount \ seen.toFinset).card

theorem unseenCount_cons_lt {column : Nat} {seen : List Nat} (bound : column < columnCount)
    (unseen : column ∉ seen) :
    unseenCount columnCount (column :: seen) < unseenCount columnCount seen := by
  refine Finset.card_lt_card (Finset.ssubset_iff_subset_ne.mpr ⟨?_, ?_⟩)
  · exact Finset.sdiff_subset_sdiff (Finset.Subset.refl _) (by simp)
  · intro same
    have member : column ∈ Finset.range columnCount \ seen.toFinset := by simp [bound, unseen]
    simp [← same] at member

theorem unseenCount_anti (columnCount : Nat) {seen more : List Nat} (subset : seen ⊆ more) :
    unseenCount columnCount more ≤ unseenCount columnCount seen := by
  refine Finset.card_le_card (Finset.sdiff_subset_sdiff (Finset.Subset.refl _) ?_)
  intro column member
  exact List.mem_toFinset.mpr (subset (List.mem_toFinset.mp member))

private theorem Sound.of_seen {middle : Pairing} (sound : Sound edges columnCount start)
    (sameOwner : middle.owner = start.owner) (seen : start.seen ⊆ middle.seen) :
    Sound edges columnCount middle := by
  have sameOwnerOf (column : Nat) : middle.ownerOf column = start.ownerOf column := by
    rw [Pairing.ownerOf, sameOwner, Pairing.ownerOf]
  refine {
    length := sameOwner ▸ sound.length
    edge := ?_
    injective := ?_ }
  · simpa only [sameOwnerOf] using sound.edge
  · intro first second owner firstUnseen secondUnseen
    simpa only [sameOwnerOf] using sound.injective first second owner
      (fun member => firstUnseen (seen member)) (fun member => secondUnseen (seen member))

private theorem Paired.of_seen {middle : Pairing} (paired : Paired middle.seen middle row)
    (sameOwner : middle.owner = start.owner) (seen : start.seen ⊆ middle.seen) :
    Paired start.seen start row := by
  obtain ⟨column, unseen, owned⟩ := paired
  refine ⟨column, fun member => unseen (seen member), ?_⟩
  rwa [Pairing.ownerOf, sameOwner] at owned

private theorem Searched.skip {column : Nat} {tried : List Nat} {outcome : Bool × Pairing}
    (searched : Searched edges columnCount row tried start outcome)
    (noChoice : edge edges row column → column ∈ start.seen) :
    Searched edges columnCount row (column :: tried) start outcome := by
  rw [Searched] at searched ⊢
  split at searched
  · next found => rwa [if_pos found]
  · next failed =>
      rw [if_neg failed]
      exact searched.skip noChoice

theorem Searched.cons {column other : Nat} {tried : List Nat} {middle : Pairing}
    {outcome : Bool × Pairing} (searched : Searched edges columnCount row tried middle outcome)
    (sound : Sound edges columnCount start) (unpaired : ¬ Paired start.seen start row)
    (bound : column < columnCount) (taken : start.ownerOf column = some other)
    (stuck : Exhausted edges columnCount other (List.range columnCount)
      { start with seen := column :: start.seen } middle) :
    Searched edges columnCount row (column :: tried) start outcome := by
  have seen : start.seen ⊆ middle.seen :=
    fun _ member => stuck.seen (List.mem_cons_of_mem _ member)
  rw [Searched] at searched ⊢
  split at searched
  · next found =>
      rw [if_pos found]
      exact searched.widen sound unpaired stuck.owner seen
  · next failed =>
      rw [if_neg failed]
      exact .cons bound taken stuck searched

/-- Searches for other rows that do what they should make the search for this row do so. -/
theorem searched_pairWith {depth : Nat} {reassign : Nat → Pairing → Bool × Pairing}
    (recursion : ∀ other pairing, Sound edges columnCount pairing →
      ¬ Paired pairing.seen pairing other → unseenCount columnCount pairing.seen < depth →
      Searched edges columnCount other (List.range columnCount) pairing (reassign other pairing))
    (columns : List Nat) (inside : ∀ column ∈ columns, column < columnCount)
    (sound : Sound edges columnCount start) (unpaired : ¬ Paired start.seen start row)
    (enough : unseenCount columnCount start.seen < depth + 1) :
    Searched edges columnCount row columns start
      (pairWith edges reassign row columns start) := by
  induction columns generalizing start with
  | nil => exact .nil
  | cons column rest induction =>
      obtain ⟨bound, insideRest⟩ := List.forall_mem_cons.mp inside
      rw [pairWith]
      by_cases choice : edge edges row column && !start.seen.contains column
      · rw [if_pos choice]
        simp only [Bool.and_eq_true, Bool.not_eq_true', List.contains_eq_mem,
          decide_eq_false_iff_not] at choice
        obtain ⟨isEdge, unseen⟩ := choice
        cases taken : start.owner.getD column none with
        | none =>
            simp only [taken]
            exact augmented_assign sound unpaired bound unseen isEdge taken
        | some other =>
            have seen : start.seen ⊆ column :: start.seen := List.subset_cons_self ..
            have otherUnpaired : ¬ Paired (column :: start.seen)
                { start with seen := column :: start.seen } other := by
              rintro ⟨found, foundUnseen, owned⟩
              have same := sound.injective found column other
                (fun member => foundUnseen (seen member)) unseen owned taken
              exact foundUnseen (same ▸ List.mem_cons_self)
            have less := unseenCount_cons_lt bound unseen
            have spec := recursion other { start with seen := column :: start.seen }
              (sound.of_seen rfl seen) otherUnpaired (less.trans_le (Nat.le_of_lt_succ enough))
            simp only [taken]
            rcases moved : reassign other { start with seen := column :: start.seen } with
              ⟨success, middle⟩
            rw [moved] at spec
            cases success with
            | true => exact Augmented.assign unpaired unseen isEdge taken spec
            | false =>
                have stuck : Exhausted edges columnCount other (List.range columnCount) _ middle :=
                  spec
                have seenMiddle : start.seen ⊆ middle.seen := List.Subset.trans seen stuck.seen
                have fewer := unseenCount_anti columnCount seenMiddle
                exact (induction insideRest (sound.of_seen stuck.owner seenMiddle)
                  (fun paired => unpaired (paired.of_seen stuck.owner seenMiddle)) (by omega)).cons
                  sound unpaired bound taken stuck
      · rw [if_neg choice]
        refine (induction insideRest sound unpaired enough).skip fun isEdge => ?_
        simpa [isEdge] using choice

/-- The search goes deep enough, as every row that has to move uses up one more column. -/
theorem searched_augment (depth : Nat) (sound : Sound edges columnCount start)
    (unpaired : ¬ Paired start.seen start row)
    (enough : unseenCount columnCount start.seen < depth) :
    Searched edges columnCount row (List.range columnCount) start
      (augment edges columnCount depth row start) := by
  induction depth generalizing row start with
  | zero => exact absurd enough (Nat.not_lt_zero _)
  | succ depth induction =>
      rw [augment]
      exact searched_pairWith (fun _ _ => induction) (List.range columnCount)
        (fun _ => List.mem_range.mp) sound unpaired enough

/-- True cells, no two of which share a row or a column. -/
structure IsMatching (edges : List (List Bool)) (columnCount : Nat)
    (cells : Finset (Nat × Nat)) : Prop where
  bound : ∀ cell ∈ cells, cell.2 < columnCount
  edge : ∀ cell ∈ cells, edge edges cell.1 cell.2
  rows : Set.InjOn Prod.fst (cells : Set (Nat × Nat))
  columns : Set.InjOn Prod.snd (cells : Set (Nat × Nat))

theorem IsMatching.subset {cells fewer : Finset (Nat × Nat)}
    (matching : IsMatching edges columnCount cells) (subset : fewer ⊆ cells) :
    IsMatching edges columnCount fewer where
  bound cell member := matching.bound cell (subset member)
  edge cell member := matching.edge cell (subset member)
  rows := matching.rows.mono (Finset.coe_subset.mpr subset)
  columns := matching.columns.mono (Finset.coe_subset.mpr subset)

theorem IsMatching.union {outer inner : Finset (Nat × Nat)}
    (outerMatching : IsMatching edges columnCount outer)
    (innerMatching : IsMatching edges columnCount inner)
    (apart : ∀ cell ∈ outer, ∀ other ∈ inner, cell.1 ≠ other.1 ∧ cell.2 ≠ other.2) :
    IsMatching edges columnCount (outer ∪ inner) where
  bound cell member := (Finset.mem_union.mp member).elim (outerMatching.bound cell)
    (innerMatching.bound cell)
  edge cell member := (Finset.mem_union.mp member).elim (outerMatching.edge cell)
    (innerMatching.edge cell)
  rows := by
    rw [Finset.coe_union]
    refine (Set.injOn_union ?_).mpr ⟨outerMatching.rows, innerMatching.rows,
      fun cell member other otherMember => (apart cell member other otherMember).1⟩
    exact Set.disjoint_left.mpr fun cell member other => (apart cell member cell other).1 rfl
  columns := by
    rw [Finset.coe_union]
    refine (Set.injOn_union ?_).mpr ⟨outerMatching.columns, innerMatching.columns,
      fun cell member other otherMember => (apart cell member other otherMember).2⟩
    exact Set.disjoint_left.mpr fun cell member other => (apart cell member cell other).1 rfl

def cells (columnCount : Nat) (owner : List (Option Nat)) : Finset (Nat × Nat) :=
  ((List.range columnCount).filterMap fun column =>
    (owner.getD column none).map fun row => (row, column)).toFinset

private theorem mem_cells {owner : List (Option Nat)} {cell : Nat × Nat} :
    cell ∈ cells columnCount owner ↔
      cell.2 < columnCount ∧ owner.getD cell.2 none = some cell.1 := by
  rcases cell with ⟨row, column⟩
  simp only [cells, List.mem_toFinset, List.mem_filterMap, List.mem_range, Option.map_eq_some_iff,
    Prod.mk.injEq]
  constructor
  · rintro ⟨found, bound, owner, owned, rfl, rfl⟩
    exact ⟨bound, owned⟩
  · rintro ⟨bound, owned⟩
    exact ⟨column, bound, row, owned, rfl, rfl⟩

private theorem isMatching_cells {owner : List (Option Nat)}
    (sound : Sound edges columnCount ⟨[], owner⟩) :
    IsMatching edges columnCount (cells columnCount owner) where
  bound _ member := (mem_cells.mp member).1
  edge cell member := sound.edge cell.2 cell.1 (mem_cells.mp member).2
  rows := by
    rintro first firstMember second secondMember (same : first.1 = second.1)
    refine Prod.ext same (sound.injective _ _ first.1 List.not_mem_nil List.not_mem_nil
      (mem_cells.mp firstMember).2 ?_)
    exact same ▸ (mem_cells.mp secondMember).2
  columns := by
    rintro first firstMember second secondMember (same : first.2 = second.2)
    have firstOwned := (mem_cells.mp firstMember).2
    rw [same, (mem_cells.mp secondMember).2] at firstOwned
    exact Prod.ext (Option.some.inj firstOwned).symm same

/-- A pairing of some rows than which there is no larger one. -/
structure Optimal (edges : List (List Bool)) (columnCount : Nat) (rows : Finset Nat)
    (owner : List (Option Nat)) : Prop where
  sound : Sound edges columnCount ⟨[], owner⟩
  inside : ∀ cell ∈ cells columnCount owner, cell.1 ∈ rows
  greatest : ∀ other, IsMatching edges columnCount other → (∀ cell ∈ other, cell.1 ∈ rows) →
    other.card ≤ (cells columnCount owner).card

private theorem Optimal.unpaired {rows : Finset Nat} {owner : List (Option Nat)}
    (optimal : Optimal edges columnCount rows owner) (fresh : row ∉ rows) :
    ¬ Paired [] ⟨[], owner⟩ row := by
  rintro ⟨column, -, owned⟩
  have bound : column < columnCount := optimal.sound.length ▸ Pairing.lt_of_ownerOf owned
  exact fresh (optimal.inside (row, column) (mem_cells.mpr ⟨bound, owned⟩))

private theorem mem_rows_cells {owner : List (Option Nat)} (length : owner.length = columnCount) :
    row ∈ (cells columnCount owner).image Prod.fst ↔ Paired [] ⟨[], owner⟩ row := by
  simp only [Finset.mem_image, mem_cells, Prod.exists, exists_and_right, exists_eq_right]
  constructor
  · rintro ⟨column, -, owned⟩
    exact ⟨column, List.not_mem_nil, owned⟩
  · rintro ⟨column, -, owned⟩
    exact ⟨column, length ▸ Pairing.lt_of_ownerOf owned, owned⟩

theorem Augmented.sound {owner : List (Option Nat)}
    (augmented : Augmented edges row ⟨[], owner⟩ final) (length : owner.length = columnCount) :
    Sound edges columnCount ⟨[], final.owner⟩ where
  length := augmented.length.trans length
  edge := augmented.edge
  injective := augmented.injective

private theorem card_cells_augmented {owner : List (Option Nat)}
    (augmented : Augmented edges row ⟨[], owner⟩ final)
    (sound : Sound edges columnCount ⟨[], owner⟩) (unpaired : ¬ Paired [] ⟨[], owner⟩ row) :
    (cells columnCount final.owner).card = (cells columnCount owner).card + 1 := by
  have soundAfter := augmented.sound sound.length
  have rows : (cells columnCount final.owner).image Prod.fst =
      insert row ((cells columnCount owner).image Prod.fst) := by
    ext other
    rw [Finset.mem_insert, mem_rows_cells soundAfter.length, mem_rows_cells sound.length]
    exact augmented.paired_iff other
  rw [← Finset.card_image_of_injOn (isMatching_cells soundAfter).rows, rows,
    Finset.card_insert_of_notMem (fun member => unpaired ((mem_rows_cells sound.length).mp member)),
    Finset.card_image_of_injOn (isMatching_cells sound).rows]

/-- Leaving out a row costs at most one cell. -/
theorem IsMatching.card_le_filter {other : Finset (Nat × Nat)}
    (matching : IsMatching edges columnCount other) (row : Nat) :
    other.card ≤ (other.filter fun cell => cell.1 ≠ row).card + 1 := by
  have single : (other.filter fun cell => ¬ cell.1 ≠ row).card ≤ 1 := by
    rw [Finset.card_le_one]
    intro first firstMember second secondMember
    simp only [ne_eq, not_not, Finset.mem_filter] at firstMember secondMember
    exact matching.rows firstMember.1 secondMember.1 (firstMember.2.trans secondMember.2.symm)
  have split := Finset.card_filter_add_card_filter_not (s := other) fun cell => cell.1 ≠ row
  omega

private theorem Optimal.augmented {rows : Finset Nat} {owner : List (Option Nat)}
    (optimal : Optimal edges columnCount rows owner) (fresh : row ∉ rows)
    (augmented : Augmented edges row ⟨[], owner⟩ final) :
    Optimal edges columnCount (insert row rows) final.owner where
  sound := augmented.sound optimal.sound.length
  inside cell member := by
    have soundAfter := augmented.sound optimal.sound.length
    have paired := (mem_rows_cells soundAfter.length).mp (Finset.mem_image_of_mem Prod.fst member)
    rcases (augmented.paired_iff cell.1).mp paired with same | former
    · exact Finset.mem_insert.mpr (.inl same)
    · obtain ⟨known, knownMember, sameRow⟩ :=
        Finset.mem_image.mp ((mem_rows_cells optimal.sound.length).mpr former)
      exact Finset.mem_insert.mpr (.inr (sameRow ▸ optimal.inside known knownMember))
  greatest other matching inside := by
    rw [card_cells_augmented augmented optimal.sound (optimal.unpaired fresh)]
    refine (matching.card_le_filter row).trans (Nat.succ_le_succ ?_)
    refine optimal.greatest _ (matching.subset (Finset.filter_subset _ _)) fun cell member => ?_
    obtain ⟨member, different⟩ := Finset.mem_filter.mp member
    exact (Finset.mem_insert.mp (inside cell member)).resolve_left different

/-- Where a search fails, a competing pairing can be exchanged, on the columns that the search has
seen, for the present one, which uses all of these. -/
theorem Optimal.exhausted {rows : Finset Nat} {owner : List (Option Nat)}
    (optimal : Optimal edges columnCount rows owner)
    (exhausted : Exhausted edges columnCount row (List.range columnCount) ⟨[], owner⟩ final) :
    Optimal edges columnCount (insert row rows) owner where
  sound := optimal.sound
  inside cell member := Finset.mem_insert_of_mem (optimal.inside cell member)
  greatest other matching inside := by
    have present := isMatching_cells optimal.sound
    have seenPaired (column : Nat) (member : column ∈ final.seen) : column < columnCount ∧
        ∃ paired, owner.getD column none = some paired ∧
          ∀ reached < columnCount, edge edges paired reached → reached ∈ final.seen :=
      exhausted.closed column member List.not_mem_nil
    let outer := other.filter fun cell => cell.2 ∉ final.seen
    let inner := (cells columnCount owner).filter fun cell => cell.2 ∈ final.seen
    have apart (cell : Nat × Nat) (outside : cell ∈ outer) (paired : Nat × Nat)
        (member : paired ∈ inner) : cell.1 ≠ paired.1 ∧ cell.2 ≠ paired.2 := by
      obtain ⟨cellMember, unseen⟩ := Finset.mem_filter.mp outside
      obtain ⟨pairedMember, seen⟩ := Finset.mem_filter.mp member
      refine ⟨fun sameRow => unseen ?_, fun sameColumn => unseen (sameColumn ▸ seen)⟩
      obtain ⟨-, found, owned, closed⟩ := seenPaired paired.2 seen
      rw [(mem_cells.mp pairedMember).2] at owned
      have edge := matching.edge cell cellMember
      rw [sameRow, Option.some.inj owned] at edge
      exact closed cell.2 (matching.bound cell cellMember) edge
    have exchanged : IsMatching edges columnCount (outer ∪ inner) :=
      (matching.subset (Finset.filter_subset _ _)).union (present.subset (Finset.filter_subset _ _))
        apart
    have known : ∀ cell ∈ outer ∪ inner, cell.1 ∈ rows := by
      intro cell member
      rcases Finset.mem_union.mp member with outside | member
      · obtain ⟨cellMember, unseen⟩ := Finset.mem_filter.mp outside
        refine (Finset.mem_insert.mp (inside cell cellMember)).resolve_left fun same => unseen ?_
        have edge := matching.edge cell cellMember
        rw [same] at edge
        exact exhausted.reached cell.2 (List.mem_range.mpr (matching.bound cell cellMember)) edge
      · exact optimal.inside cell (Finset.mem_filter.mp member).1
    have covered : (other.filter fun cell => ¬ cell.2 ∉ final.seen).card ≤ inner.card := by
      have columns := (matching.subset (Finset.filter_subset
        (fun cell => ¬ cell.2 ∉ final.seen) other)).columns
      have subset : (other.filter fun cell => ¬ cell.2 ∉ final.seen).image Prod.snd ⊆
          inner.image Prod.snd := by
        intro column member
        obtain ⟨cell, cellMember, rfl⟩ := Finset.mem_image.mp member
        have seen := not_not.mp (Finset.mem_filter.mp cellMember).2
        obtain ⟨bound, paired, owned, -⟩ := seenPaired cell.2 seen
        exact Finset.mem_image.mpr ⟨(paired, cell.2),
          Finset.mem_filter.mpr ⟨mem_cells.mpr ⟨bound, owned⟩, seen⟩, rfl⟩
      rw [← Finset.card_image_of_injOn columns]
      exact (Finset.card_le_card subset).trans Finset.card_image_le
    have disjoint : Disjoint outer inner :=
      Finset.disjoint_left.mpr fun cell outside member => (apart cell outside cell member).1 rfl
    have split := Finset.card_filter_add_card_filter_not (s := other) fun cell =>
      cell.2 ∉ final.seen
    have bound := optimal.greatest _ exchanged known
    rw [Finset.card_union_of_disjoint disjoint] at bound
    calc
      other.card = outer.card + (other.filter fun cell => ¬ cell.2 ∉ final.seen).card := split.symm
      _ ≤ outer.card + inner.card := Nat.add_le_add_left covered _
      _ ≤ (cells columnCount owner).card := bound

private theorem getD_replicate_none (columnCount column : Nat) :
    (List.replicate columnCount (none : Option Nat)).getD column none = none := by
  rw [List.getD_eq_getElem?_getD, List.getElem?_replicate]
  split <;> rfl

private theorem cells_replicate (columnCount : Nat) :
    cells columnCount (List.replicate columnCount none) = ∅ := by
  refine Finset.eq_empty_of_forall_notMem fun cell member => ?_
  have owned := (mem_cells.mp member).2
  rw [getD_replicate_none] at owned
  exact nomatch owned

theorem optimal_replicate (edges : List (List Bool)) (columnCount : Nat) :
    Optimal edges columnCount ∅ (List.replicate columnCount none) where
  sound := {
    length := List.length_replicate
    edge := by simp only [Pairing.ownerOf, getD_replicate_none]; exact nofun
    injective := by simp only [Pairing.ownerOf, getD_replicate_none]; exact nofun }
  inside := by simp [cells_replicate]
  greatest other _ inside := by
    have empty : other = ∅ :=
      Finset.eq_empty_of_forall_notMem fun cell member => Finset.notMem_empty _ (inside cell member)
    simp [empty]

/-- Row after row the pairing stays a largest one, and its size is counted. -/
theorem optimal_pairRows {rows : List Nat} {processed : Finset Nat} {owner : List (Option Nat)}
    (optimal : Optimal edges columnCount processed owner) (distinct : rows.Nodup)
    (fresh : ∀ row ∈ rows, row ∉ processed) :
    Optimal edges columnCount (processed ∪ rows.toFinset)
        (pairRows edges columnCount rows owner).2 ∧
      (cells columnCount (pairRows edges columnCount rows owner).2).card =
        (cells columnCount owner).card + (pairRows edges columnCount rows owner).1 := by
  induction rows generalizing processed owner with
  | nil => simpa [pairRows] using optimal
  | cons row rest induction =>
      obtain ⟨freshRow, freshRest⟩ := List.forall_mem_cons.mp fresh
      obtain ⟨absent, distinctRest⟩ := List.nodup_cons.mp distinct
      have stillFresh : ∀ other ∈ rest, other ∉ insert row processed := by
        intro other member known
        rcases Finset.mem_insert.mp known with rfl | known
        · exact absent member
        · exact freshRest other member known
      have unpaired := optimal.unpaired freshRow
      have enough : unseenCount columnCount [] < columnCount + 1 := by simp [unseenCount]
      have searched := searched_augment (columnCount + 1) optimal.sound unpaired enough
      have all : processed ∪ (row :: rest).toFinset = insert row processed ∪ rest.toFinset := by
        rw [List.toFinset_cons, Finset.union_insert, Finset.insert_union]
      rw [all, pairRows]
      rcases outcome : augment edges columnCount (columnCount + 1) row ⟨[], owner⟩ with
        ⟨paired, pairing⟩
      rw [outcome] at searched
      cases paired with
      | true =>
          have augmented : Augmented edges row ⟨[], owner⟩ pairing := searched
          have rest := induction (optimal.augmented freshRow augmented) distinctRest stillFresh
          have more := card_cells_augmented augmented optimal.sound unpaired
          refine ⟨rest.1, ?_⟩
          simp only [if_true, rest.2, more]
          omega
      | false =>
          have exhausted : Exhausted edges columnCount row (List.range columnCount) ⟨[], owner⟩
            pairing := searched
          have same : pairing.owner = owner := exhausted.owner
          simpa [same] using induction (optimal.exhausted exhausted) distinctRest stillFresh

private theorem lt_length_of_edge {column : Nat} (isEdge : edge edges row column) :
    row < edges.length := by
  by_contra outside
  simp [edge, not_lt.mp outside] at isEdge

theorem isGreatest_maximum (edges : List (List Bool)) (columnCount : Nat) :
    (∃ cells, IsMatching edges columnCount cells ∧ cells.card = maximum edges columnCount) ∧
      ∀ cells, IsMatching edges columnCount cells → cells.card ≤ maximum edges columnCount := by
  have fresh : ∀ row ∈ List.range edges.length, row ∉ (∅ : Finset Nat) := by simp
  obtain ⟨optimal, size⟩ := optimal_pairRows (optimal_replicate edges columnCount)
    List.nodup_range fresh
  rw [cells_replicate, Finset.card_empty, Nat.zero_add] at size
  refine ⟨⟨_, isMatching_cells optimal.sound, size⟩, fun other matching => ?_⟩
  rw [maximum, ← size]
  refine optimal.greatest other matching fun cell member => ?_
  simpa using lt_length_of_edge (matching.edge cell member)

private theorem IsMatching.rows_subset {other : Finset (Nat × Nat)}
    (matching : IsMatching edges columnCount other) :
    other.image Prod.fst ⊆ Finset.range edges.length := by
  intro row member
  obtain ⟨cell, cellMember, rfl⟩ := Finset.mem_image.mp member
  exact Finset.mem_range.mpr (lt_length_of_edge (matching.edge cell cellMember))

/-- All rows can be paired with columns of their own just if a largest pairing uses them all. -/
theorem maximum_eq_length_iff (edges : List (List Bool)) (columnCount : Nat) :
    maximum edges columnCount = edges.length ↔
      ∃ pairing : Fin edges.length ↪ Fin columnCount,
        ∀ row : Fin edges.length, edge edges row (pairing row) := by
  obtain ⟨⟨cells, matching, size⟩, greatest⟩ := isGreatest_maximum edges columnCount
  have rowCount : (cells.image Prod.fst).card = maximum edges columnCount := by
    rw [Finset.card_image_of_injOn matching.rows, size]
  constructor
  · intro perfect
    have rows : cells.image Prod.fst = Finset.range edges.length :=
      Finset.eq_of_subset_of_card_le matching.rows_subset (by simp [rowCount, perfect])
    have choice (row : Fin edges.length) :
        ∃ column : Fin columnCount, (row.val, column.val) ∈ cells := by
      have member : row.val ∈ cells.image Prod.fst := by simp [rows]
      obtain ⟨cell, cellMember, same⟩ := Finset.mem_image.mp member
      exact ⟨⟨cell.2, matching.bound cell cellMember⟩, same ▸ cellMember⟩
    choose pairing paired using choice
    have injective : Function.Injective pairing := by
      intro first second same
      have sameCell := matching.columns (paired first) (paired second) (congrArg Fin.val same)
      exact Fin.ext (congrArg Prod.fst sameCell)
    exact ⟨⟨pairing, injective⟩, fun row => matching.edge _ (paired row)⟩
  · rintro ⟨pairing, paired⟩
    let all := Finset.univ.image fun row : Fin edges.length => (row.val, (pairing row).val)
    have allMatching : IsMatching edges columnCount all := by
      refine { bound := ?_, edge := ?_, rows := ?_, columns := ?_ }
      · intro cell member
        obtain ⟨row, -, rfl⟩ := Finset.mem_image.mp member
        exact (pairing row).isLt
      · intro cell member
        obtain ⟨row, -, rfl⟩ := Finset.mem_image.mp member
        exact paired row
      · intro first firstMember second secondMember same
        obtain ⟨firstRow, -, rfl⟩ := Finset.mem_image.mp firstMember
        obtain ⟨secondRow, -, rfl⟩ := Finset.mem_image.mp secondMember
        rw [Fin.ext same]
      · intro first firstMember second secondMember same
        obtain ⟨firstRow, -, rfl⟩ := Finset.mem_image.mp firstMember
        obtain ⟨secondRow, -, rfl⟩ := Finset.mem_image.mp secondMember
        rw [pairing.injective (Fin.ext same)]
    have allSize : all.card = edges.length := by
      rw [Finset.card_image_of_injective, Finset.card_univ, Fintype.card_fin]
      exact fun first second same => Fin.ext (congrArg Prod.fst same)
    refine le_antisymm ?_ (allSize ▸ greatest all allMatching)
    rw [← rowCount]
    simpa using Finset.card_le_card matching.rows_subset

theorem maximum_eq_iff (edges : List (List Bool)) (columnCount : Nat) :
    (edges.length = columnCount ∧ maximum edges columnCount = edges.length) ↔
      ∃ pairing : Fin edges.length ≃ Fin columnCount,
        ∀ row : Fin edges.length, edge edges row (pairing row) := by
  rw [maximum_eq_length_iff]
  constructor
  · rintro ⟨square, pairing, paired⟩
    have bijective : Function.Bijective pairing :=
      (Fintype.bijective_iff_injective_and_card pairing).mpr
        ⟨pairing.injective, by simpa using square⟩
    exact ⟨Equiv.ofBijective pairing bijective, paired⟩
  · rintro ⟨pairing, paired⟩
    exact ⟨by simpa using Fintype.card_congr pairing, pairing.toEmbedding, paired⟩

end ServiceStub.Matching
