import ServiceStub.Proofs.Matching

/-!
How a search for a column goes, without a bound on its depth: it looks at places that exist only,
and it comes to an end.
-/

namespace ServiceStub.Matching

variable {edges : List (List Bool)} {columnCount row : Nat} {columns : List Nat}
  {start : Pairing} {outcome : Bool × Pairing}

def cell? (edges : List (List Bool)) (row column : Nat) : Option Bool :=
  edges[row]?.bind fun cells => cells[column]?

/-- How a search for a row goes through columns, one rule for each thing that it may find.  Every
place that it looks up exists, and a search for another row has come to its end before it goes
on. -/
inductive Search (edges : List (List Bool)) :
    (row : Nat) → (columns : List Nat) → (start : Pairing) → (outcome : Bool × Pairing) → Prop
  | done {row : Nat} {start : Pairing} : Search edges row [] start (false, start)
  | noEdge {row column : Nat} {columns : List Nat} {start : Pairing} {outcome : Bool × Pairing}
      (cell : cell? edges row column = some false)
      (rest : Search edges row columns start outcome) :
      Search edges row (column :: columns) start outcome
  | seen {row column : Nat} {columns : List Nat} {start : Pairing} {outcome : Bool × Pairing}
      (cell : cell? edges row column = some true) (inside : column < start.owner.length)
      (seen : column ∈ start.seen) (rest : Search edges row columns start outcome) :
      Search edges row (column :: columns) start outcome
  | free {row column : Nat} {columns : List Nat} {start : Pairing}
      (cell : cell? edges row column = some true) (unseen : column ∉ start.seen)
      (slot : start.owner[column]? = some none) :
      Search edges row (column :: columns) start
        (true, Pairing.assign { start with seen := column :: start.seen } column row)
  | moved {row column other : Nat} {columns : List Nat} {start middle : Pairing}
      (cell : cell? edges row column = some true) (unseen : column ∉ start.seen)
      (slot : start.owner[column]? = some (some other))
      (search : Search edges other (List.range start.owner.length)
        { start with seen := column :: start.seen } (true, middle))
      (inside : column < middle.owner.length) :
      Search edges row (column :: columns) start (true, middle.assign column row)
  | stuck {row column other : Nat} {columns : List Nat} {start middle : Pairing}
      {outcome : Bool × Pairing} (cell : cell? edges row column = some true)
      (unseen : column ∉ start.seen) (slot : start.owner[column]? = some (some other))
      (search : Search edges other (List.range start.owner.length)
        { start with seen := column :: start.seen } (false, middle))
      (rest : Search edges row columns middle outcome) :
      Search edges row (column :: columns) start outcome

theorem Search.unique {other : Bool × Pairing} (search : Search edges row columns start outcome)
    (otherSearch : Search edges row columns start other) : outcome = other := by
  induction search generalizing other with
  | done => cases otherSearch with | done => rfl
  | noEdge cell rest induction =>
      cases otherSearch with
      | noEdge _ rest => exact induction rest
      | _ => simp_all
  | seen cell inside seen rest induction =>
      cases otherSearch with
      | seen _ _ _ rest => exact induction rest
      | _ => simp_all
  | free cell unseen slot =>
      cases otherSearch with
      | free => rfl
      | _ => simp_all
  | moved cell unseen slot search inside induction =>
      cases otherSearch with
      | moved _ _ otherSlot search _ =>
          cases slot.symm.trans otherSlot
          cases induction search
          rfl
      | stuck _ _ otherSlot search _ =>
          cases slot.symm.trans otherSlot
          cases induction search
      | _ => simp_all
  | stuck cell unseen slot search rest searchInduction restInduction =>
      cases otherSearch with
      | moved _ _ otherSlot search _ =>
          cases slot.symm.trans otherSlot
          cases searchInduction search
      | stuck _ _ otherSlot search rest =>
          cases slot.symm.trans otherSlot
          cases searchInduction search
          exact restInduction rest
      | _ => simp_all

/-- Each column has a place in the pairing, and is paired with a row that exists if with any. -/
structure Fits (edges : List (List Bool)) (columnCount : Nat) (pairing : Pairing) : Prop where
  length : pairing.owner.length = columnCount
  rows : ∀ column row, pairing.ownerOf column = some row → row < edges.length

theorem Fits.visit (fits : Fits edges columnCount start) (column : Nat) :
    Fits edges columnCount { start with seen := column :: start.seen } :=
  ⟨fits.length, fits.rows⟩

theorem Fits.assign (fits : Fits edges columnCount start) {column : Nat}
    (inside : column < start.owner.length) (bound : row < edges.length) :
    Fits edges columnCount (start.assign column row) where
  length := by rw [Pairing.assign, List.length_set, fits.length]
  rows other owner owned := by
    rw [Pairing.ownerOf_assign inside] at owned
    split at owned
    · rwa [← Option.some.inj owned]
    · exact fits.rows other owner owned

private theorem Pairing.slot_eq_some_iff {column : Nat} {slot : Option Nat} :
    start.owner[column]? = some slot ↔
      column < start.owner.length ∧ start.ownerOf column = slot := by
  rw [Pairing.ownerOf, List.getD_eq_getElem?_getD, List.getElem?_eq_some_iff]
  constructor
  · rintro ⟨inside, rfl⟩
    exact ⟨inside, by rw [List.getElem?_eq_getElem inside, Option.getD_some]⟩
  · rintro ⟨inside, rfl⟩
    exact ⟨inside, by rw [List.getElem?_eq_getElem inside, Option.getD_some]⟩

/-- A search keeps the pairing in its bounds, and forgets no column that it has seen. -/
theorem Search.fits (search : Search edges row columns start outcome)
    (fits : Fits edges columnCount start) (bound : row < edges.length) :
    Fits edges columnCount outcome.2 ∧ start.seen ⊆ outcome.2.seen := by
  induction search with
  | done => exact ⟨fits, fun _ member => member⟩
  | noEdge cell rest induction => exact induction fits bound
  | seen cell inside seen rest induction => exact induction fits bound
  | free cell unseen slot =>
      obtain ⟨inside, -⟩ := Pairing.slot_eq_some_iff.mp slot
      exact ⟨(fits.visit _).assign inside bound, List.subset_cons_self ..⟩
  | moved cell unseen slot search inside induction =>
      obtain ⟨kept, seen⟩ :=
        induction (fits.visit _) (fits.rows _ _ (Pairing.slot_eq_some_iff.mp slot).2)
      exact ⟨kept.assign inside bound, List.Subset.trans (List.subset_cons_self ..) seen⟩
  | stuck cell unseen slot search rest searchInduction restInduction =>
      obtain ⟨kept, seen⟩ :=
        searchInduction (fits.visit _) (fits.rows _ _ (Pairing.slot_eq_some_iff.mp slot).2)
      obtain ⟨keptRest, seenRest⟩ := restInduction kept bound
      have seenBefore := List.Subset.trans (List.subset_cons_self ..) seen
      exact ⟨keptRest, List.Subset.trans seenBefore seenRest⟩

private theorem edge_iff {column : Nat} :
    edge edges row column ↔ cell? edges row column = some true := by
  rw [edge, cell?, List.getD_eq_getElem?_getD, List.getD_eq_getElem?_getD]
  cases edges[row]? with
  | none => simp
  | some cells =>
      cases cell : cells[column]? with
      | none => simp [cell]
      | some value => simp [cell]

private theorem cell?_eq_some (rectangular : ∀ line ∈ edges, line.length = columnCount)
    {column : Nat} (bound : row < edges.length) (inside : column < columnCount) :
    cell? edges row column = some (edge edges row column) := by
  have within : column < edges[row].length := by
    rwa [rectangular _ (List.getElem_mem bound)]
  simp [cell?, edge, bound, within]

private theorem search_pairWith (rectangular : ∀ line ∈ edges, line.length = columnCount)
    {depth : Nat} {reassign : Nat → Pairing → Bool × Pairing}
    (recursion : ∀ other pairing, other < edges.length → Fits edges columnCount pairing →
      unseenCount columnCount pairing.seen < depth →
      Search edges other (List.range columnCount) pairing (reassign other pairing))
    (columns : List Nat) (inside : ∀ column ∈ columns, column < columnCount)
    (bound : row < edges.length) (fits : Fits edges columnCount start)
    (enough : unseenCount columnCount start.seen < depth + 1) :
    Search edges row columns start (pairWith edges reassign row columns start) := by
  induction columns generalizing start with
  | nil => exact .done
  | cons column rest induction =>
      obtain ⟨within, insideRest⟩ := List.forall_mem_cons.mp inside
      have cell := cell?_eq_some rectangular bound within
      have place : column < start.owner.length := fits.length.symm ▸ within
      rw [pairWith]
      cases isEdge : edge edges row column with
      | false => exact .noEdge (isEdge ▸ cell) (induction insideRest fits enough)
      | true =>
          rw [isEdge] at cell
          by_cases seen : column ∈ start.seen
          · simp only [List.contains_eq_mem, seen, decide_true, Bool.not_true, Bool.and_false,
              Bool.false_eq_true, if_false]
            exact .seen cell place seen (induction insideRest fits enough)
          · simp only [List.contains_eq_mem, seen, decide_false, Bool.not_false, Bool.and_true,
              if_true]
            cases taken : start.owner.getD column none with
            | none => exact .free cell seen (Pairing.slot_eq_some_iff.mpr ⟨place, taken⟩)
            | some other =>
                have slot := Pairing.slot_eq_some_iff.mpr ⟨place, taken⟩
                have otherBound := fits.rows column other taken
                -- One column more has been seen, so the smaller depth is enough.
                have less := unseenCount_cons_lt within seen
                have search := recursion other _ otherBound (fits.visit column)
                  (less.trans_le (Nat.le_of_lt_succ enough))
                obtain ⟨fitsMiddle, seenMiddle⟩ := search.fits (fits.visit column) otherBound
                have fewer := unseenCount_anti columnCount seenMiddle
                rw [← fits.length] at search
                rcases moved : reassign other { start with seen := column :: start.seen } with
                  ⟨success, middle⟩
                rw [moved] at search fitsMiddle fewer
                simp only [moved]
                cases success with
                | true => exact .moved cell seen slot search (fitsMiddle.length.symm ▸ within)
                | false =>
                    have rest := induction insideRest fitsMiddle
                      (fewer.trans_lt (less.trans enough))
                    exact .stuck cell seen slot search rest

private theorem search_augment (rectangular : ∀ line ∈ edges, line.length = columnCount)
    (depth : Nat) (bound : row < edges.length) (fits : Fits edges columnCount start)
    (enough : unseenCount columnCount start.seen < depth) :
    Search edges row (List.range columnCount) start
      (augment edges columnCount depth row start) := by
  induction depth generalizing row start with
  | zero => exact absurd enough (Nat.not_lt_zero _)
  | succ depth induction =>
      rw [augment]
      exact search_pairWith rectangular (fun _ _ => induction) (List.range columnCount)
        (fun _ => List.mem_range.mp) bound fits enough

private theorem pairRows_append (edges : List (List Bool)) (columnCount : Nat)
    (rows more : List Nat) (owner : List (Option Nat)) :
    (pairRows edges columnCount (rows ++ more) owner).2 =
      (pairRows edges columnCount more (pairRows edges columnCount rows owner).2).2 := by
  induction rows generalizing owner with
  | nil => rfl
  | cons row rows induction =>
      simp only [List.cons_append, pairRows]
      exact induction _

def ownersAfter (edges : List (List Bool)) (columnCount rowCount : Nat) : List (Option Nat) :=
  (pairRows edges columnCount (List.range rowCount) (List.replicate columnCount none)).2

private theorem ownersAfter_succ (edges : List (List Bool)) (columnCount row : Nat) :
    ownersAfter edges columnCount (row + 1) =
      (augment edges columnCount (columnCount + 1) row
        ⟨[], ownersAfter edges columnCount row⟩).2.owner := by
  rw [ownersAfter, List.range_succ, pairRows_append]
  rfl

/-- Some columns have a row each, along true cells, and no two have the same. -/
structure Assignment (edges : List (List Bool)) (columnCount : Nat)
    (owner : List (Option Nat)) : Prop where
  length : owner.length = columnCount
  cell : ∀ column row : Nat, owner[column]? = some (some row) →
    cell? edges row column = some true
  injective : ∀ column other row : Nat, owner[column]? = some (some row) →
    owner[other]? = some (some row) → column = other

private theorem assignment_ownersAfter (edges : List (List Bool)) (columnCount rowCount : Nat) :
    Assignment edges columnCount (ownersAfter edges columnCount rowCount) := by
  have fresh : ∀ row ∈ List.range rowCount, row ∉ (∅ : Finset Nat) := by simp
  obtain ⟨optimal, -⟩ := optimal_pairRows (optimal_replicate edges columnCount)
    List.nodup_range fresh
  refine { length := optimal.sound.length, cell := ?_, injective := ?_ }
  · intro column row slot
    exact edge_iff.mp (optimal.sound.edge column row (Pairing.slot_eq_some_iff.mp slot).2)
  · intro column other row slot otherSlot
    exact optimal.sound.injective column other row List.not_mem_nil List.not_mem_nil
      (Pairing.slot_eq_some_iff.mp slot).2 (Pairing.slot_eq_some_iff.mp otherSlot).2

private theorem fits_ownersAfter (edges : List (List Bool)) (columnCount rowCount : Nat) :
    Fits edges columnCount ⟨[], ownersAfter edges columnCount rowCount⟩ := by
  have assignment := assignment_ownersAfter edges columnCount rowCount
  refine ⟨assignment.length, fun column row owned => ?_⟩
  have slot := Pairing.slot_eq_some_iff.mpr ⟨Pairing.lt_of_ownerOf owned, owned⟩
  have cell := assignment.cell column row slot
  obtain ⟨line, found, -⟩ := Option.bind_eq_some_iff.mp cell
  exact (List.getElem?_eq_some_iff.mp found).1

/-- The size that is computed is that of a largest matching.  It comes from one search for each
row, which looks at places that exist only and ends in one way, and after which the pairs of
columns and rows are again true cells that share no row and no column. -/
theorem maximum_is_largest_matching (edges : List (List Bool)) (columnCount : Nat)
    (rectangular : ∀ line ∈ edges, line.length = columnCount) :
    ((∃ cells, IsMatching edges columnCount cells ∧ cells.card = maximum edges columnCount) ∧
      ∀ cells, IsMatching edges columnCount cells → cells.card ≤ maximum edges columnCount) ∧
    ∀ row < edges.length,
      let start : Pairing := ⟨[], ownersAfter edges columnCount row⟩
      let found := augment edges columnCount (columnCount + 1) row start
      (∀ outcome, Search edges row (List.range columnCount) start outcome ↔ outcome = found) ∧
        ownersAfter edges columnCount (row + 1) = found.2.owner ∧
        Assignment edges columnCount (ownersAfter edges columnCount (row + 1)) := by
  refine ⟨isGreatest_maximum edges columnCount, fun row bound => ?_⟩
  have enough : unseenCount columnCount [] < columnCount + 1 := by simp [unseenCount]
  have search := search_augment rectangular (columnCount + 1) bound
    (fits_ownersAfter edges columnCount row) enough
  refine ⟨fun outcome => ⟨fun other => other.unique search, ?_⟩, ownersAfter_succ ..,
    assignment_ownersAfter edges columnCount (row + 1)⟩
  rintro rfl
  exact search

theorem maximum_is_largest_matching_moved :
    let edges := [[true, true], [true, false]]
    (∀ line ∈ edges, line.length = 2) ∧ maximum edges 2 = 2 ∧
      (∃ cells, IsMatching edges 2 cells ∧ cells.card = 2) ∧
      ownersAfter edges 2 1 = [some 0, none] ∧ ownersAfter edges 2 2 = [some 1, some 0] ∧
      Assignment edges 2 [some 1, some 0] := by
  intro edges
  have rectangular : ∀ line ∈ edges, line.length = 2 := by decide
  have size : maximum edges 2 = 2 := by decide
  have owners : ownersAfter edges 2 2 = [some 1, some 0] := by decide
  obtain ⟨⟨⟨cells, matching, card⟩, -⟩, rows⟩ := maximum_is_largest_matching edges 2 rectangular
  refine ⟨rectangular, size, ⟨cells, matching, card.trans size⟩, by decide, owners, ?_⟩
  rw [← owners]
  exact (rows 1 (by decide)).2.2

end ServiceStub.Matching
