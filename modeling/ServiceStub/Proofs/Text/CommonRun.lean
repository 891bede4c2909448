import ServiceStub.Proofs.Text.Chars
import ServiceStub.Text.Similarity
import Mathlib.Order.Bounds.Basic
import Mathlib.Order.MinMax

/-!
The longest run of symbols that two sequences have in common.  Each cell of the row for a symbol
holds the length of the longest run that ends at the symbol and at the place of the cell, and a run
that ends at no symbol done so far is new only if it ends at the next one.
-/

namespace ServiceStub.Text

variable {α : Type} [BEq α]

def sharedEnd : (left right : List α) → Nat
  | symbol :: left, other :: right => if symbol == other then sharedEnd left right + 1 else 0
  | _, _ => 0

/-- The lengths for all places among `others`, given what stands before them in reverse. -/
def sharedEnds (left before : List α) : (others : List α) → List Nat
  | [] => []
  | other :: others =>
      sharedEnd left (other :: before) :: sharedEnds left (other :: before) others

private theorem length_sharedEnds (left before others : List α) :
    (sharedEnds left before others).length = others.length := by
  induction others generalizing before with
  | nil => rfl
  | cons other others induction => rw [sharedEnds, List.length_cons, induction, List.length_cons]

private theorem sharedEnd_nil (left : List α) : sharedEnd left [] = 0 := by cases left <;> rfl

private theorem sharedEnds_nil (before others : List α) :
    sharedEnds [] before others = List.replicate others.length 0 := by
  induction others generalizing before with
  | nil => rfl
  | cons other others induction =>
      rw [sharedEnds, induction, List.length_cons, List.replicate_succ, sharedEnd]
      · exact nofun

/-- Whatever the row held, its cells become the lengths for the next symbol. -/
theorem writeRuns_sharedEnds (symbol : α) (left before others : List α) {stale : List Nat}
    (sameLength : stale.length = others.length) :
    writeRuns symbol others (sharedEnd left before :: sharedEnds left before others) stale =
      sharedEnds (symbol :: left) before others := by
  induction others generalizing before stale with
  | nil =>
      rw [List.length_eq_zero_iff.mp sameLength, writeRuns, sharedEnds]
      exact nofun
  | cons other others induction =>
      obtain ⟨cell, stale, rfl⟩ := List.exists_cons_of_length_eq_add_one sameLength
      rw [sharedEnds, sharedEnds, writeRuns, sharedEnd, induction]
      simpa using sameLength

def commonRunLengths (left right : List α) : Set Nat :=
  {length | ∃ run, run <:+: left ∧ run <:+: right ∧ run.length = length}

omit [BEq α] in
private theorem commonRunLengths_comm (left right : List α) :
    commonRunLengths left right = commonRunLengths right left := by
  ext length
  simp only [commonRunLengths, Set.mem_ofPred_eq, and_left_comm]

private theorem isGreatest_foldl_max (cells : List Nat) (start : Nat) :
    IsGreatest (insert start {cell | cell ∈ cells}) (cells.foldl max start) := by
  induction cells generalizing start with
  | nil => simp
  | cons cell cells induction =>
      obtain ⟨reached, bounds⟩ := induction (max start cell)
      refine ⟨?_, ?_⟩
      · rw [List.foldl_cons]
        rcases reached with same | later
        · rw [same]
          rcases max_choice start cell with first | second
          · rw [first]
            exact .inl rfl
          · rw [second]
            exact .inr List.mem_cons_self
        · exact .inr (List.mem_cons_of_mem cell later)
      · have bound : max start cell ≤ cells.foldl max (max start cell) := bounds (.inl rfl)
        rintro other (rfl | member)
        · exact (le_max_left _ _).trans bound
        · rcases List.mem_cons.mp member with rfl | later
          · exact (le_max_right _ _).trans bound
          · exact bounds (.inr later)

omit [BEq α] in
private theorem isGreatest_zero {left right : List α}
    (only : ∀ run, run <+: left → run <+: right → run = []) :
    IsGreatest {length | ∃ run, run <+: left ∧ run <+: right ∧ run.length = length} 0 := by
  refine ⟨⟨[], List.nil_prefix, List.nil_prefix, rfl⟩, ?_⟩
  rintro length ⟨run, starts, otherStarts, rfl⟩
  rw [only run starts otherStarts]
  exact Nat.le_refl 0

variable [LawfulBEq α]

private theorem isGreatest_sharedEnd (left right : List α) :
    IsGreatest {length | ∃ run, run <+: left ∧ run <+: right ∧ run.length = length}
      (sharedEnd left right) := by
  induction left generalizing right with
  | nil =>
      rw [sharedEnd]
      · exact isGreatest_zero fun run starts _ => List.prefix_nil.mp starts
      · exact nofun
  | cons symbol left induction =>
      cases right with
      | nil => exact isGreatest_zero fun run _ starts => List.prefix_nil.mp starts
      | cons other right =>
          rw [sharedEnd]
          split
          · next same =>
              cases eq_of_beq same
              obtain ⟨⟨run, starts, otherStarts, length⟩, bound⟩ := induction right
              refine ⟨⟨symbol :: run, (List.prefix_cons_inj symbol).mpr starts,
                (List.prefix_cons_inj symbol).mpr otherStarts, by simp [length]⟩, ?_⟩
              rintro _ ⟨run, starts, otherStarts, rfl⟩
              cases run with
              | nil => exact Nat.zero_le _
              | cons first run =>
                  obtain ⟨-, starts⟩ := List.cons_prefix_cons.mp starts
                  obtain ⟨-, otherStarts⟩ := List.cons_prefix_cons.mp otherStarts
                  exact Nat.succ_le_succ (bound ⟨run, starts, otherStarts, rfl⟩)
          · next different =>
              refine isGreatest_zero fun run starts otherStarts => ?_
              cases run with
              | nil => rfl
              | cons first run =>
                  obtain ⟨rfl, -⟩ := List.cons_prefix_cons.mp starts
                  obtain ⟨rfl, -⟩ := List.cons_prefix_cons.mp otherStarts
                  exact absurd (beq_self_eq_true first) different

omit [LawfulBEq α] in
private theorem mem_sharedEnds {left before others : List α} {cell : Nat} :
    cell ∈ sharedEnds left before others ↔
      ∃ piece, piece <+: others ∧ piece ≠ [] ∧ sharedEnd left (piece.reverse ++ before) = cell := by
  induction others generalizing before with
  | nil => simp [sharedEnds]
  | cons other others induction =>
      rw [sharedEnds, List.mem_cons, induction]
      constructor
      · rintro (rfl | ⟨piece, starts, -, rfl⟩)
        · exact ⟨[other], by simp, by simp, rfl⟩
        · exact ⟨other :: piece, (List.prefix_cons_inj other).mpr starts, by simp, by simp⟩
      · rintro ⟨piece, starts, present, rfl⟩
        obtain ⟨first, piece, rfl⟩ := List.exists_cons_of_ne_nil present
        obtain ⟨rfl, later⟩ := List.cons_prefix_cons.mp starts
        cases piece with
        | nil => exact .inl rfl
        | cons second piece => exact .inr ⟨second :: piece, later, by simp, by simp⟩

/-- The runs that end at one more symbol are all that is new. -/
theorem isGreatest_concat {done others : List α} {longest : Nat}
    (greatest : IsGreatest (commonRunLengths done others) longest) (symbol : α) :
    IsGreatest (commonRunLengths (done ++ [symbol]) others)
      ((sharedEnds (symbol :: done.reverse) [] others).foldl max longest) := by
  have backwards : symbol :: done.reverse = (done ++ [symbol]).reverse := by simp
  obtain ⟨reached, bound⟩ :=
    isGreatest_foldl_max (sharedEnds (symbol :: done.reverse) [] others) longest
  refine ⟨?_, ?_⟩
  · rcases reached with same | ending
    · obtain ⟨run, inside, otherInside, length⟩ := greatest.1
      exact ⟨run, inside.trans (List.prefix_append done [symbol]).isInfix, otherInside,
        length.trans same.symm⟩
    · obtain ⟨piece, starts, -, cell⟩ := mem_sharedEnds.mp ending
      obtain ⟨run, ends, otherEnds, length⟩ :=
        (isGreatest_sharedEnd (symbol :: done.reverse) (piece.reverse ++ [])).1
      rw [backwards, ← List.reverse_reverse run, List.reverse_prefix] at ends
      rw [List.append_nil, ← List.reverse_reverse run, List.reverse_prefix] at otherEnds
      exact ⟨run.reverse, ends.isInfix, otherEnds.isInfix.trans starts.isInfix, by
        rw [List.length_reverse, length, cell]⟩
  · rintro _ ⟨run, inside, otherInside, rfl⟩
    rcases List.infix_concat_iff.mp inside with ends | inside
    · obtain ⟨before, after, rfl⟩ := otherInside
      cases run with
      | nil => exact Nat.zero_le _
      | cons first run =>
          have cell : sharedEnd (symbol :: done.reverse) ((before ++ first :: run).reverse ++ []) ∈
              sharedEnds (symbol :: done.reverse) [] (before ++ first :: run ++ after) :=
            mem_sharedEnds.mpr ⟨before ++ first :: run, List.prefix_append _ after, by simp, rfl⟩
          refine le_trans ?_ (bound (.inr cell))
          refine (isGreatest_sharedEnd _ _).2 ⟨(first :: run).reverse, ?_, ?_, by simp⟩
          · rw [backwards, List.reverse_prefix]
            exact ends
          · rw [List.append_nil, List.reverse_prefix]
            exact List.suffix_append before (first :: run)
    · exact (greatest.2 ⟨run, inside, otherInside, rfl⟩).trans (bound (.inl rfl))

namespace RunRows

/-- What the rows hold once some symbols are done.  Nothing is said of the cells of the row that is
to be written over. -/
structure Holds (done others : List α) (rows : RunRows) : Prop where
  previous : rows.previous = sharedEnds done.reverse [] others
  stale : rows.stale.length = others.length
  longest : IsGreatest (commonRunLengths done others) rows.longest

omit [LawfulBEq α] in
private theorem holds_start (others : List α) {row : List Nat}
    (zeros : row = List.replicate others.length 0) :
    Holds [] others { previous := row, stale := row } where
  previous := zeros.trans (sharedEnds_nil [] others).symm
  stale := by rw [zeros, List.length_replicate]
  longest := by
    refine ⟨⟨[], List.nil_infix, List.nil_infix, rfl⟩, ?_⟩
    rintro _ ⟨run, inside, -, rfl⟩
    rw [List.infix_nil.mp inside]
    exact Nat.le_refl 0

theorem Holds.next {done others : List α} {rows : RunRows} (holds : Holds done others rows)
    (symbol : α) : Holds (done ++ [symbol]) others (rows.next others symbol) := by
  have written : writeRuns symbol others (0 :: rows.previous) rows.stale =
      sharedEnds (symbol :: done.reverse) [] others := by
    rw [holds.previous, ← sharedEnd_nil done.reverse]
    exact writeRuns_sharedEnds symbol done.reverse [] others holds.stale
  have backwards : (done ++ [symbol]).reverse = symbol :: done.reverse := by simp
  refine { previous := ?_, stale := ?_, longest := ?_ }
  · rw [RunRows.next, written, backwards]
  · rw [RunRows.next, holds.previous, length_sharedEnds]
  · rw [RunRows.next, written]
    exact isGreatest_concat holds.longest symbol

theorem Holds.foldl {done others : List α} {rows : RunRows} (holds : Holds done others rows)
    (symbols : List α) :
    Holds (done ++ symbols) others (symbols.foldl (RunRows.next others) rows) := by
  induction symbols generalizing done rows with
  | nil => rwa [List.append_nil]
  | cons symbol symbols induction =>
      rw [List.append_cons]
      exact induction (holds.next symbol)

end RunRows

private theorem isGreatest_longestCommonRun (left right : List α) :
    IsGreatest (commonRunLengths left right) (longestCommonRun left right) := by
  have scanned (long short : List α) := ((RunRows.holds_start short rfl).foldl long).longest
  rw [longestCommonRun]
  split
  next long short chosen =>
  split at chosen
  · obtain ⟨rfl, rfl⟩ := Prod.mk.inj chosen
    rw [commonRunLengths_comm]
    exact scanned right left
  · obtain ⟨rfl, rfl⟩ := Prod.mk.inj chosen
    exact scanned left right

private theorem longestCommonRun_comm (left right : List α) :
    longestCommonRun left right = longestCommonRun right left := by
  refine (isGreatest_longestCommonRun left right).unique ?_
  rw [commonRunLengths_comm]
  exact isGreatest_longestCommonRun right left

private theorem longestCommonRun_eq_length_iff {left right : List α} :
    longestCommonRun left right = left.length ↔ left <:+: right := by
  obtain ⟨⟨run, inside, otherInside, length⟩, bound⟩ := isGreatest_longestCommonRun left right
  constructor
  · intro whole
    rwa [← inside.eq_of_length (length.trans whole)]
  · intro contained
    refine le_antisymm ?_ (bound ⟨left, List.infix_rfl, contained, rfl⟩)
    rw [← length]
    exact inside.length_le

/-- What is computed for two texts is the greatest length of a run of characters that occurs in
both, whichever of them comes first.  Where case counts, it is the whole length of a text just if
the other one contains that text. -/
theorem longestCommonSubstring_isGreatest (caseSensitive : Bool) (left right : String) :
    IsGreatest
        (commonRunLengths (foldCase caseSensitive left).toList
          (foldCase caseSensitive right).toList)
        (longestCommonSubstring caseSensitive left right) ∧
      longestCommonSubstring caseSensitive left right =
        longestCommonSubstring caseSensitive right left ∧
      (longestCommonSubstring true left right = left.length ↔ containsText true left right) := by
  refine ⟨isGreatest_longestCommonRun _ _, longestCommonRun_comm _ _, ?_⟩
  rw [containsText, contains_iff, ← String.length_toList]
  exact longestCommonRun_eq_length_iff

end ServiceStub.Text
