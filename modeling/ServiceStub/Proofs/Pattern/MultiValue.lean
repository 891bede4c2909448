import ServiceStub.Pattern.MultiValue
import ServiceStub.Proofs.Matching
import ServiceStub.Proofs.Pattern.Satisfaction
import Mathlib.Data.List.Perm.Basic
import Mathlib.Logic.Equiv.Defs

/-! What it means that the values of a field satisfy a pattern over several values.  Neither the
order of the values nor that of the patterns matters. -/

namespace ServiceStub

open MatchResult (Decides)

variable {now : Calendar.Instant}

/-- Some value satisfies the pattern, or an absent value does if there are none. -/
def Pattern.SatisfiedByOne (now : Calendar.Instant) (pattern : Pattern) (values : List String) :
    Prop :=
  (values = [] ∧ pattern.Satisfies now none) ∨
    ∃ value ∈ values, pattern.Satisfies now (some value)

namespace MultiValuePattern

/-- One of the values satisfies a pattern, each pattern of a list is satisfied by one of the
values, or patterns and values can be paired up so that each value satisfies its pattern. -/
def Satisfies (now : Calendar.Instant) (pattern : MultiValuePattern) (values : List String) :
    Prop :=
  match pattern with
  | .single pattern => pattern.SatisfiedByOne now values
  | .includes patterns => ∀ pattern ∈ patterns, pattern.SatisfiedByOne now values
  | .hasExactly patterns =>
      ∃ pairing : Fin patterns.length ≃ Fin values.length,
        ∀ index : Fin patterns.length,
          (patterns.get index).Satisfies now (some (values.get (pairing index)))

private theorem decides_bestOf (now : Calendar.Instant) (pattern : Pattern) (values : List String) :
    (bestOf now pattern values : MatchResult Rat).Decides (pattern.SatisfiedByOne now values) := by
  rw [bestOf]
  cases values with
  | nil => exact (pattern.decides_evaluate now none).congr (by simp [Pattern.SatisfiedByOne])
  | cons first rest =>
      have one := Decides.any fun value (_ : value ∈ first :: rest) =>
        pattern.decides_evaluate now (some value)
      exact one.congr (by simp [Pattern.SatisfiedByOne])

def exactCells (now : Calendar.Instant) (patterns : List Pattern) (values : List String) :
    List (List Bool) :=
  patterns.map fun pattern => values.map fun value =>
    (pattern.evaluate now (some value) : MatchResult Rat).isExact

private theorem edge_exactCells {patterns : List Pattern} {values : List String} {row column : Nat}
    (rowBound : row < patterns.length) (columnBound : column < values.length) :
    Matching.edge (exactCells now patterns values) row column ↔
      patterns[row].Satisfies now (some values[column]) := by
  rw [← (patterns[row].decides_evaluate now (some values[column])).isExact_iff]
  simp [Matching.edge, exactCells, rowBound, columnBound]

private theorem decides_pairUp (now : Calendar.Instant) (patterns : List Pattern)
    (values : List String) :
    (pairUp now patterns values : MatchResult Rat).Decides
      ((MultiValuePattern.hasExactly patterns).Satisfies now values) := by
  have cells : (patterns.map fun pattern => values.map fun value =>
      (pattern.evaluate now (some value) : MatchResult Rat)).map (fun row =>
        row.map MatchResult.isExact) = exactCells now patterns values := by
    simp [exactCells]
  have rows : (exactCells now patterns values).length = patterns.length := List.length_map ..
  simp only [pairUp, cells]
  refine (Decides.ite_mismatch _).congr ?_
  have perfect := Matching.maximum_eq_iff (exactCells now patterns values) values.length
  rw [rows] at perfect
  rw [Bool.and_eq_true, beq_iff_eq, beq_iff_eq, perfect, Satisfies]
  exact exists_congr fun pairing => forall_congr' fun index =>
    edge_exactCells index.isLt (pairing index).isLt

theorem decides_evaluate (now : Calendar.Instant) (pattern : MultiValuePattern)
    (values : List String) :
    (pattern.evaluate now values : MatchResult Rat).Decides (pattern.Satisfies now values) := by
  cases pattern with
  | single pattern => exact decides_bestOf now pattern values
  | includes patterns => exact .mean fun pattern _ => decides_bestOf now pattern values
  | hasExactly patterns => exact decides_pairUp now patterns values

/-- The places of a list and of a reordered one, so that an item keeps its place. -/
noncomputable def placesOf {α : Type} {items reordered : List α} (same : items.Perm reordered) :
    Fin items.length ≃ Fin reordered.length :=
  letI := Classical.decEq α
  { toFun := same.idxBij
    invFun := same.symm.idxBij
    left_inv := fun _ => same.idxBij_symm_idxBij
    right_inv := fun _ => same.idxBij_idxBij_symm }

theorem get_placesOf {α : Type} {items reordered : List α} (same : items.Perm reordered)
    (place : Fin items.length) : reordered.get (placesOf same place) = items.get place :=
  let _ := Classical.decEq α
  same.getElem_idxBij_eq_getElem place

/-- The same patterns, in another order if there are several. -/
inductive Rearranges : MultiValuePattern → MultiValuePattern → Prop where
  | single (pattern : Pattern) : Rearranges (.single pattern) (.single pattern)
  | hasExactly {patterns others : List Pattern} (same : patterns.Perm others) :
      Rearranges (.hasExactly patterns) (.hasExactly others)
  | includes {patterns others : List Pattern} (same : patterns.Perm others) :
      Rearranges (.includes patterns) (.includes others)

theorem Rearranges.symm {pattern other : MultiValuePattern}
    (rearranges : Rearranges pattern other) : Rearranges other pattern := by
  cases rearranges with
  | single pattern => exact .single pattern
  | hasExactly same => exact .hasExactly same.symm
  | includes same => exact .includes same.symm

private theorem satisfiedByOne_of_perm {pattern : Pattern} {values reordered : List String}
    (same : values.Perm reordered) (satisfied : pattern.SatisfiedByOne now values) :
    pattern.SatisfiedByOne now reordered := by
  rcases satisfied with ⟨rfl, absent⟩ | ⟨value, member, satisfied⟩
  · exact .inl ⟨same.nil_eq.symm, absent⟩
  · exact .inr ⟨value, same.subset member, satisfied⟩

private theorem Satisfies.rearrange {pattern other : MultiValuePattern}
    {values reordered : List String}
    (satisfied : pattern.Satisfies now values) (rearranges : Rearranges pattern other)
    (same : values.Perm reordered) : other.Satisfies now reordered := by
  cases rearranges with
  | single pattern => exact satisfiedByOne_of_perm same satisfied
  | includes samePatterns =>
      intro pattern member
      exact satisfiedByOne_of_perm same (satisfied pattern (samePatterns.symm.subset member))
  | @hasExactly patterns others samePatterns =>
      obtain ⟨pairing, paired⟩ := satisfied
      refine ⟨(placesOf samePatterns.symm).trans (pairing.trans (placesOf same)), fun index => ?_⟩
      have found := paired (placesOf samePatterns.symm index)
      rwa [get_placesOf, ← get_placesOf same] at found

private theorem satisfies_iff_of_rearranges {pattern other : MultiValuePattern}
    {values reordered : List String} (rearranges : Rearranges pattern other)
    (same : values.Perm reordered) :
    pattern.Satisfies now values ↔ other.Satisfies now reordered :=
  ⟨fun satisfied => satisfied.rearrange rearranges same,
    fun satisfied => satisfied.rearrange rearranges.symm same.symm⟩

/-- Values match exactly if they pair up one to one with the patterns, if each of the patterns is
satisfied by one of them, or if one of them satisfies the pattern; and in whatever order patterns
and values are given. -/
theorem exact_iff_paired (now : Calendar.Instant) :
    (∀ patterns values,
      ((MultiValuePattern.hasExactly patterns).evaluate now values : MatchResult Rat).isExact ↔
        patterns.length = values.length ∧
          ∃ pairing : Fin patterns.length ≃ Fin values.length,
            ∀ index : Fin patterns.length,
              (patterns.get index).Satisfies now (some (values.get (pairing index)))) ∧
      (∀ patterns values,
        ((MultiValuePattern.includes patterns).evaluate now values : MatchResult Rat).isExact ↔
          ∀ pattern ∈ patterns, pattern.SatisfiedByOne now values) ∧
      (∀ pattern values,
        ((MultiValuePattern.single pattern).evaluate now values : MatchResult Rat).isExact ↔
          pattern.SatisfiedByOne now values) ∧
      ∀ pattern other values reordered, Rearranges pattern other → values.Perm reordered →
        (pattern.evaluate now values : MatchResult Rat).isExact =
          (other.evaluate now reordered : MatchResult Rat).isExact := by
  refine ⟨fun patterns values => ?_, fun patterns values => ?_, fun pattern values => ?_,
    fun pattern other values reordered rearranges same => ?_⟩
  · rw [(decides_evaluate now (.hasExactly patterns) values).isExact_iff]
    refine ⟨fun satisfied => ⟨?_, satisfied⟩, fun paired => paired.2⟩
    obtain ⟨pairing, -⟩ := satisfied
    simpa using Fintype.card_congr pairing
  · exact (decides_evaluate now (.includes patterns) values).isExact_iff
  · exact (decides_evaluate now (.single pattern) values).isExact_iff
  · rw [Bool.eq_iff_iff, (decides_evaluate now pattern values).isExact_iff,
      (decides_evaluate now other reordered).isExact_iff]
    exact satisfies_iff_of_rearranges rearranges same

/-- Both values contain an `a`, so that the first of them must be left to the second pattern. -/
theorem overlapping_patterns_pair_up :
    let patterns : List Pattern := [.contains "a", .equalTo "ab" false]
    Rearranges (.hasExactly patterns) (.hasExactly patterns.reverse) ∧
      ["ab", "a"].Perm ["a", "ab"] ∧
      ((MultiValuePattern.hasExactly patterns).evaluate ⟨0, 0⟩ ["ab", "a"] :
        MatchResult Rat).isExact ∧
      ((MultiValuePattern.hasExactly patterns.reverse).evaluate ⟨0, 0⟩ ["a", "ab"] :
        MatchResult Rat).isExact := by
  intro patterns
  have rearranges : Rearranges (.hasExactly patterns) (.hasExactly patterns.reverse) :=
    .hasExactly (List.reverse_perm _).symm
  have same : ["ab", "a"].Perm ["a", "ab"] := List.Perm.swap ..
  have exact : ((MultiValuePattern.hasExactly patterns).evaluate ⟨0, 0⟩ ["ab", "a"] :
      MatchResult Rat).isExact := by decide +kernel
  obtain ⟨-, -, -, reordered⟩ := exact_iff_paired ⟨0, 0⟩
  exact ⟨rearranges, same, exact, reordered _ _ _ _ rearranges same ▸ exact⟩

end MultiValuePattern

end ServiceStub
