import ServiceStub.Text.Case
import Mathlib.Tactic.ByCases
import Mathlib.Logic.Basic

/-! Texts in upper or lower case do not change when they are put into that case again. -/

namespace ServiceStub.Text

abbrev CaseRow : Type := Nat × Nat × Nat × Int

namespace CaseRow

def maps (row : CaseRow) (code : Nat) : Bool :=
  match row with
  | (first, last, step, _) => first ≤ code && code ≤ last && (code - first) % step == 0

def target (row : CaseRow) (code : Nat) : Nat := ((code : Int) + row.2.2.2).toNat

def lowest (row : CaseRow) : Nat := row.target row.1

def highest (row : CaseRow) : Nat := row.target row.2.1

/-- Of the characters in its range the row maps every other one, or there is only one. -/
def alternates (row : CaseRow) : Bool := Nat.beq (row.2.2.1 % 2) 0 || Nat.beq row.1 row.2.1

/-- The row leads to characters that another row does not map: they lie outside of its range, or
they are those in between. -/
def avoids (row other : CaseRow) : Bool :=
  Nat.blt row.highest other.1 || Nat.blt other.2.1 row.lowest ||
    (Nat.blt 0 row.lowest && Nat.beq ((row.lowest + other.1) % 2) 1 && row.alternates &&
      other.alternates)

def isValid (row : CaseRow) : Bool :=
  Nat.blt row.highest 0xD800 || (Nat.blt 0xDFFF row.lowest && Nat.blt row.highest 0x110000)

variable {row other : CaseRow} {code : Nat}

private theorem maps_iff :
    row.maps code ↔ (row.1 ≤ code ∧ code ≤ row.2.1) ∧ (code - row.1) % row.2.2.1 = 0 := by
  simp [maps]

private theorem target_of_maps (mapped : row.maps code) :
    row.lowest ≤ row.target code ∧ row.target code ≤ row.highest := by
  obtain ⟨⟨first, last⟩, -⟩ := maps_iff.mp mapped
  simp only [lowest, highest, target]
  omega

private theorem even_of_maps (mapped : row.maps code) (alternates : row.alternates) :
    (code - row.1) % 2 = 0 := by
  obtain ⟨within, aligned⟩ := maps_iff.mp mapped
  simp only [CaseRow.alternates, Bool.or_eq_true, Nat.beq_eq] at alternates
  rcases alternates with even | single
  · exact Nat.mod_eq_zero_of_dvd
      (Nat.dvd_trans (Nat.dvd_of_mod_eq_zero even) (Nat.dvd_of_mod_eq_zero aligned))
  · omega

private theorem not_maps_of_avoids (avoid : row.avoids other) (mapped : row.maps code) :
    other.maps (row.target code) = false := by
  rw [Bool.eq_false_iff]
  intro mappedAgain
  obtain ⟨⟨first, last⟩, -⟩ := maps_iff.mp mapped
  obtain ⟨⟨otherFirst, otherLast⟩, -⟩ := maps_iff.mp mappedAgain
  obtain ⟨low, high⟩ := target_of_maps mapped
  simp only [avoids, Nat.beq_eq, Nat.blt_eq, Bool.or_eq_true, Bool.and_eq_true] at avoid
  rcases avoid with (below | above) | ⟨⟨⟨positive, odd⟩, alternates⟩, otherAlternates⟩
  · omega
  · omega
  · have even := even_of_maps mapped alternates
    have otherEven := even_of_maps mappedAgain otherAlternates
    simp only [lowest, target] at positive odd otherFirst otherEven
    omega

private theorem toNat_ofNat_target (valid : row.isValid) (mapped : row.maps code) :
    (Char.ofNat (row.target code)).toNat = row.target code := by
  obtain ⟨low, high⟩ := target_of_maps mapped
  simp only [isValid, Nat.blt_eq, Bool.or_eq_true, Bool.and_eq_true] at valid
  have scalar : (row.target code).isValidChar := by
    simp only [Nat.isValidChar]
    omega
  rw [Char.ofNat, dif_pos scalar]
  rfl

end CaseRow

def Settled (rows : List CaseRow) : Bool :=
  rows.all fun row => row.isValid && rows.all row.avoids

private theorem mappedBy?_eq_some {rows : List CaseRow} {code target : Nat}
    (mapped : mappedBy? rows code = some target) :
    ∃ row ∈ rows, row.maps code ∧ row.target code = target := by
  obtain ⟨row, found, rfl⟩ := Option.map_eq_some_iff.mp mapped
  have maps := List.find?_some found
  exact ⟨row, List.mem_of_find?_eq_some found, maps, rfl⟩

private theorem mappedBy?_eq_none {rows : List CaseRow} {code : Nat}
    (unmapped : ∀ row ∈ rows, row.maps code = false) : mappedBy? rows code = none := by
  rw [mappedBy?, Option.map_eq_none_iff, List.find?_eq_none]
  intro row member
  rw [Bool.not_eq_true]
  exact unmapped row member

private theorem mappedBy?_target {rows : List CaseRow} (settled : Settled rows) {code target : Nat}
    (mapped : mappedBy? rows code = some target) :
    (Char.ofNat target).toNat = target ∧ mappedBy? rows target = none := by
  obtain ⟨row, member, maps, rfl⟩ := mappedBy?_eq_some mapped
  rw [Settled, List.all_eq_true] at settled
  have checked := settled row member
  rw [Bool.and_eq_true, List.all_eq_true] at checked
  exact ⟨CaseRow.toNat_ofNat_target checked.1 maps,
    mappedBy?_eq_none fun other listed => CaseRow.not_maps_of_avoids (checked.2 other listed) maps⟩

private theorem settled_tables :
    (Settled lowerRows ∧ ∀ row ∈ lowerRows, CaseRow.avoids row (0x130, 0x130, 1, 0)) ∧
      Settled upperRows ∧ ∀ row ∈ upperRows, ∀ sequence ∈ upperSequences,
        CaseRow.avoids row (sequence.1, sequence.1, 1, 0) := by
  decide +kernel

private theorem toNat_le_iff {left right : Char} : left ≤ right ↔ left.toNat ≤ right.toNat :=
  UInt32.le_iff_toNat_le

private theorem lowerChar_eq_self {c : Char} (unmapped : mappedBy? lowerRows c.toNat = none)
    (plain : c.toNat ≠ 0x130) : lowerChar c = [c] := by
  rw [lowerChar]
  split
  · have capital : ¬ CaseRow.maps (0x41, 0x5A, 1, 32) c.toNat :=
      List.find?_eq_none.mp (Option.map_eq_none_iff.mp unmapped) _ List.mem_cons_self
    rw [asciiLower, if_neg]
    simpa [CaseRow.maps, toNat_le_iff, Nat.mod_one] using capital
  · simp [plain, unmapped]

/-- A character that is its own lower case, and no capital sigma, whose lower case depends on its
place. -/
def IsLower (c : Char) : Prop := lowerChar c = [c] ∧ c ≠ 'Σ'

private theorem ne_of_unmapped {c : Char} (unmapped : mappedBy? lowerRows c.toNat = none) :
    c ≠ 'Σ' := by
  rintro rfl
  exact absurd unmapped (by decide)

private theorem isLower_asciiLower : ∀ code < 0x80, IsLower (asciiLower (Char.ofNat code)) := by
  unfold IsLower
  decide

private theorem isLower_of_mapped {code target : Nat}
    (mapped : mappedBy? lowerRows code = some target) :
    IsLower (Char.ofNat target) := by
  obtain ⟨scalar, unmapped⟩ := mappedBy?_target settled_tables.1.1 mapped
  obtain ⟨row, member, maps, rfl⟩ := mappedBy?_eq_some mapped
  have plain := CaseRow.not_maps_of_avoids (settled_tables.1.2 row member) maps
  rw [← scalar] at unmapped
  refine ⟨lowerChar_eq_self unmapped ?_, ne_of_unmapped unmapped⟩
  rw [scalar]
  rintro same
  rw [same] at plain
  exact absurd plain (by decide)

private theorem isLower_of_mem_lowerChar {c lowered : Char} (member : lowered ∈ lowerChar c) :
    IsLower lowered := by
  rw [lowerChar] at member
  split at member
  · next ascii =>
      rw [List.mem_singleton.mp member, ← Char.ofNat_toNat c]
      exact isLower_asciiLower c.toNat ascii
  · split at member
    · simp only [List.mem_cons, List.not_mem_nil, or_false] at member
      rcases member with rfl | rfl
      · exact ⟨by decide, by decide⟩
      · exact ⟨by decide +kernel, by decide⟩
    · next plain =>
        split at member
        · next mapped =>
            rw [List.mem_singleton.mp member]
            exact isLower_of_mapped mapped
        · next unmapped =>
            rw [List.mem_singleton.mp member]
            exact ⟨lowerChar_eq_self unmapped (by simpa using plain), ne_of_unmapped unmapped⟩

private theorem isLower_of_mem_lowerChars {before chars : List Char} {lowered : Char}
    (member : lowered ∈ lowerChars before chars) : IsLower lowered := by
  induction chars generalizing before with
  | nil => simp [lowerChars] at member
  | cons c rest induction =>
      rw [lowerChars, List.mem_append] at member
      rcases member with first | later
      · split at first
        · rw [List.mem_singleton.mp first]
          split
          · exact ⟨by decide +kernel, by decide⟩
          · exact ⟨by decide +kernel, by decide⟩
        · exact isLower_of_mem_lowerChar first
      · exact induction later

private theorem lowerChars_of_isLower {before chars : List Char} (each : ∀ c ∈ chars, IsLower c) :
    lowerChars before chars = chars := by
  induction chars generalizing before with
  | nil => rfl
  | cons c rest induction =>
      obtain ⟨first, others⟩ := List.forall_mem_cons.mp each
      simp [lowerChars, first.1, first.2, induction others]

theorem lower_lower (text : String) : lower (lower text) = lower text := by
  rw [lower, lower, String.toList_ofList,
    lowerChars_of_isLower fun _ member => isLower_of_mem_lowerChars member]

def IsUpper (c : Char) : Prop := upperChar c = [c]

private theorem isUpper_of_sequence : ∀ sequence ∈ upperSequences, ∀ code ∈ sequence.2,
    IsUpper (Char.ofNat code) := by
  unfold IsUpper
  decide +kernel

private theorem upperChar_ascii : ∀ code < 0x80,
    (upperChar (Char.ofNat code)).all fun raised => upperChar raised == [raised] := by
  decide +kernel

private theorem upperChar_eq_self {c : Char} (unmapped : mappedBy? upperRows c.toNat = none)
    (plain : upperSequences.lookup c.toNat = none) : upperChar c = [c] := by
  rw [upperChar]
  split
  · have small : ¬ CaseRow.maps (0x61, 0x7A, 1, -32) c.toNat :=
      List.find?_eq_none.mp (Option.map_eq_none_iff.mp unmapped) _ List.mem_cons_self
    rw [if_neg]
    simpa [CaseRow.maps, toNat_le_iff, Nat.mod_one] using small
  · simp [plain, unmapped]

private theorem lookup_eq_none_of_mapped {code target : Nat}
    (mapped : mappedBy? upperRows code = some target) : upperSequences.lookup target = none := by
  obtain ⟨row, member, maps, rfl⟩ := mappedBy?_eq_some mapped
  rw [List.lookup_eq_none_iff]
  intro sequence listed
  have avoids := settled_tables.2.2 row member sequence listed
  have avoided := CaseRow.not_maps_of_avoids avoids maps
  rw [bne_iff_ne]
  rintro same
  simp [CaseRow.maps, same] at avoided

private theorem isUpper_of_mapped {code target : Nat}
    (mapped : mappedBy? upperRows code = some target) :
    IsUpper (Char.ofNat target) := by
  obtain ⟨scalar, unmapped⟩ := mappedBy?_target settled_tables.2.1 mapped
  have plain := lookup_eq_none_of_mapped mapped
  rw [← scalar] at unmapped plain
  exact upperChar_eq_self unmapped plain

private theorem isUpper_of_mem_upperChar {c raised : Char} (member : raised ∈ upperChar c) :
    IsUpper raised := by
  by_cases ascii : c.toNat < 0x80
  · rw [← Char.ofNat_toNat c] at member
    exact eq_of_beq (List.all_eq_true.mp (upperChar_ascii c.toNat ascii) raised member)
  · rw [upperChar, if_neg ascii] at member
    split at member
    · next codes found =>
        obtain ⟨code, listed, rfl⟩ := List.mem_map.mp member
        obtain ⟨before, after, split, -⟩ := List.lookup_eq_some_iff.mp found
        refine isUpper_of_sequence (c.toNat, codes) ?_ code listed
        rw [split]
        exact List.mem_append_right before List.mem_cons_self
    · next plain =>
        split at member
        · next mapped =>
            rw [List.mem_singleton.mp member]
            exact isUpper_of_mapped mapped
        · next unmapped =>
            rw [List.mem_singleton.mp member]
            exact upperChar_eq_self unmapped plain

private theorem flatMap_upperChar {chars : List Char} (each : ∀ c ∈ chars, IsUpper c) :
    chars.flatMap upperChar = chars := by
  induction chars with
  | nil => rfl
  | cons c rest induction =>
      obtain ⟨first, others⟩ := List.forall_mem_cons.mp each
      rw [List.flatMap_cons, first, induction others, List.singleton_append]

theorem upper_upper (text : String) : upper (upper text) = upper text := by
  have each : ∀ c ∈ text.toList.flatMap upperChar, IsUpper c := by
    intro c member
    obtain ⟨source, -, raised⟩ := List.mem_flatMap.mp member
    exact isUpper_of_mem_upperChar raised
  rw [upper, upper, String.toList_ofList, flatMap_upperChar each]

end ServiceStub.Text
