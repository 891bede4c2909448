import ServiceStub.Text.Blank
import Mathlib.Data.List.Infix

/-! Where a search stops, and what cutting and trimming leave of a sequence. -/

namespace ServiceStub.Text

variable {α : Type}

section Searching

variable [BEq α] {needle left right : List α}

/-- A search passes over the items, whatever follows them. -/
def Clear (needle items : List α) : Prop :=
  ∀ rest, indexOf? needle (items ++ rest) = (indexOf? needle rest).map (· + items.length)

theorem Clear.nil : Clear needle [] := fun rest => by simp

theorem Clear.append (first : Clear needle left) (second : Clear needle right) :
    Clear needle (left ++ right) := by
  intro rest
  rw [List.append_assoc, first, second, Option.map_map, List.length_append]
  congr 1
  funext position
  exact (Nat.add_assoc _ _ _).trans (congrArg (position + ·) (Nat.add_comm _ _))

theorem Clear.flatMap {β : Type} {pieces : List β} {render : β → List α}
    (each : ∀ piece ∈ pieces, Clear needle (render piece)) :
    Clear needle (pieces.flatMap render) := by
  induction pieces with
  | nil => exact .nil
  | cons piece pieces induction =>
      obtain ⟨first, others⟩ := List.forall_mem_cons.mp each
      exact first.append (induction others)

private theorem clear_singleton {item : α}
    (different : ∀ rest, needle.isPrefixOf (item :: rest) = false) :
    Clear needle [item] := by
  intro rest
  rw [List.singleton_append, indexOf?, different, if_neg Bool.false_ne_true,
    List.length_singleton]

variable [LawfulBEq α]

theorem indexOf?_append (needle rest : List α) : indexOf? needle (needle ++ rest) = some 0 := by
  have starts : needle.isPrefixOf (needle ++ rest) :=
    List.isPrefixOf_iff_prefix.mpr (List.prefix_append needle rest)
  cases whole : needle ++ rest with
  | nil => rw [indexOf?, (List.append_eq_nil_iff.mp whole).1, List.isEmpty_nil, if_pos rfl]
  | cons head tail => rw [indexOf?, ← whole, if_pos starts]

theorem clear_of_not_mem {head : α} {tail items : List α} (free : head ∉ items) :
    Clear (head :: tail) items := by
  induction items with
  | nil => exact .nil
  | cons item items induction =>
      have different (rest : List α) : (head :: tail).isPrefixOf (item :: rest) = false := by
        simp [List.isPrefixOf, List.ne_of_not_mem_cons free]
      exact (clear_singleton different).append (induction (List.not_mem_of_not_mem_cons free))

/-- Up to an item that the needle lacks, a search passes over all when the needle does not stand
before that item. -/
theorem clear_of_stop {items : List α} {stop : α} (lacks : stop ∉ needle)
    (absent : ¬needle <:+: items) : Clear needle (items ++ [stop]) := by
  have elsewhere {before : List α} (outside : ¬needle <:+: before) (after : List α) :
      needle.isPrefixOf (before ++ [stop] ++ after) = false := by
    rw [Bool.eq_false_iff, ne_eq, List.isPrefixOf_iff_prefix]
    intro starts
    rcases List.prefix_or_prefix_of_prefix starts (List.prefix_append _ after) with within | beyond
    · rcases List.prefix_concat_iff.mp within with rfl | within
      · exact lacks (List.mem_append_right _ (List.mem_singleton_self stop))
      · exact outside within.isInfix
    · exact lacks (beyond.subset (List.mem_append_right _ (List.mem_singleton_self stop)))
  induction items with
  | nil => exact clear_singleton (elsewhere absent)
  | cons item items induction =>
      have later : ¬needle <:+: items := fun inside =>
        absent (inside.trans (List.suffix_cons item items).isInfix)
      intro rest
      rw [List.cons_append, List.cons_append, indexOf?, ← List.cons_append, ← List.cons_append,
        elsewhere absent, if_neg Bool.false_ne_true, induction later, Option.map_map]
      rfl

theorem Clear.indexOf?_append {items : List α} (clear : Clear needle items) (rest : List α) :
    indexOf? needle (items ++ (needle ++ rest)) = some items.length := by
  rw [clear, Text.indexOf?_append, Option.map_some, Nat.zero_add]

theorem contains_iff {hay : List α} : contains needle hay ↔ needle <:+: hay := by
  induction hay with
  | nil =>
      simp only [contains, indexOf?, List.infix_nil]
      cases needle with
      | nil => simp
      | cons head tail => simp
  | cons head tail induction =>
      rw [List.infix_cons_iff, ← induction, ← List.isPrefixOf_iff_prefix]
      simp only [contains, indexOf?]
      by_cases first : needle.isPrefixOf (head :: tail)
      · simp [first]
      · simp [first]

end Searching

section Cutting

variable [BEq α] [LawfulBEq α]

theorem stripStart?_append (start rest : List α) :
    stripStart? start (start ++ rest) = some rest := by
  induction start with
  | nil => cases rest <;> rfl
  | cons item start induction =>
      rw [List.cons_append, stripStart?, beq_self_eq_true, if_pos rfl, induction]

theorem eq_append_of_stripStart? {start whole rest : List α}
    (stripped : stripStart? start whole = some rest) : whole = start ++ rest := by
  induction start generalizing whole with
  | nil => exact Option.some.inj stripped
  | cons wanted start induction =>
      cases whole with
      | nil => cases stripped
      | cons found whole =>
          rw [stripStart?] at stripped
          split at stripped
          · next same => rw [eq_of_beq same, induction stripped, List.cons_append]
          · cases stripped

theorem stripEnd?_append (whole finish : List α) :
    stripEnd? finish (whole ++ finish) = some whole := by
  rw [stripEnd?, List.reverse_append, stripStart?_append, Option.map_some, List.reverse_reverse]

theorem eq_append_of_stripEnd? {finish whole rest : List α}
    (stripped : stripEnd? finish whole = some rest) : whole = rest ++ finish := by
  obtain ⟨reversed, found, rfl⟩ := Option.map_eq_some_iff.mp stripped
  rw [← List.reverse_reverse whole, eq_append_of_stripStart? found, List.reverse_append,
    List.reverse_reverse]

theorem beq_of_not_mem {items : List α} {separator : α} (free : separator ∉ items) :
    ∀ item ∈ items, (item == separator) = false := by
  intro item member
  refine beq_false_of_ne ?_
  rintro rfl
  exact free member

theorem splitOnce_append {left : List α} {separator : α} (free : separator ∉ left)
    (right : List α) : splitOnce separator (left ++ separator :: right) = some (left, right) := by
  have differ : ∀ item ∈ left, (!(item == separator)) = true := by
    intro item member
    rw [beq_of_not_mem free item member, Bool.not_false]
  simp [splitOnce, List.dropWhile_append_of_pos differ, List.takeWhile_append_of_pos differ]

theorem splitOnce_free {whole : List α} {separator : α} (free : separator ∉ whole) :
    splitOnce separator whole = none := by
  have differ : ∀ item ∈ whole, (!(item == separator)) = true := by
    intro item member
    rw [beq_of_not_mem free item member, Bool.not_false]
  rw [← List.append_nil whole, splitOnce, List.dropWhile_append_of_pos differ]
  rfl

theorem splitOnce_append_left {left : List α} {separator : α} (free : separator ∉ left)
    (right : List α) :
    splitOnce separator (left ++ right) =
      (splitOnce separator right).map fun halves => (left ++ halves.1, halves.2) := by
  have differ : ∀ item ∈ left, (!(item == separator)) = true := by
    intro item member
    rw [beq_of_not_mem free item member, Bool.not_false]
  rw [splitOnce, splitOnce, List.dropWhile_append_of_pos differ,
    List.takeWhile_append_of_pos differ]
  split <;> rfl

theorem splitOnce_eq_none_iff {whole : List α} {separator : α} :
    splitOnce separator whole = none ↔ separator ∉ whole := by
  refine ⟨?_, splitOnce_free⟩
  intro missing member
  obtain ⟨left, right, rfl, free⟩ := List.eq_append_cons_of_mem member
  rw [splitOnce_append free] at missing
  cases missing

end Cutting

section Splitting

variable {isSeparator : α → Bool} {piece rest : List α} {separator : α}

theorem splitAt_free (free : ∀ item ∈ piece, isSeparator item = false) :
    splitAt isSeparator piece = [piece] := by
  induction piece with
  | nil => rfl
  | cons item piece induction =>
      obtain ⟨first, others⟩ := List.forall_mem_cons.mp free
      rw [splitAt, first, if_neg Bool.false_ne_true, induction others]

theorem splitAt_append (free : ∀ item ∈ piece, isSeparator item = false)
    (separates : isSeparator separator) :
    splitAt isSeparator (piece ++ separator :: rest) = piece :: splitAt isSeparator rest := by
  induction piece with
  | nil => rw [List.nil_append, splitAt, if_pos separates]
  | cons item piece induction =>
      obtain ⟨first, others⟩ := List.forall_mem_cons.mp free
      rw [List.cons_append, splitAt, first, if_neg Bool.false_ne_true, induction others]

theorem exists_cut (isSeparator : α → Bool) (whole : List α) :
    ∃ before, (∀ item ∈ before, isSeparator item = false) ∧
      (whole = before ∨
        ∃ separator rest, isSeparator separator = true ∧ whole = before ++ separator :: rest) := by
  induction whole with
  | nil => exact ⟨[], nofun, .inl rfl⟩
  | cons item whole induction =>
      cases separates : isSeparator item with
      | true => exact ⟨[], nofun, .inr ⟨item, whole, separates, rfl⟩⟩
      | false =>
          obtain ⟨before, free, cut⟩ := induction
          refine ⟨item :: before, List.forall_mem_cons.mpr ⟨separates, free⟩, ?_⟩
          rcases cut with rfl | ⟨separator, rest, isSeparator_separator, rfl⟩
          · exact .inl rfl
          · exact .inr ⟨separator, rest, isSeparator_separator, rfl⟩

theorem splitAt_ne_nil (whole : List α) : splitAt isSeparator whole ≠ [] := by
  cases whole with
  | nil => simp [splitAt]
  | cons item rest =>
      rw [splitAt]
      split
      · simp
      · split <;> simp

private theorem splitAt_eq_splitOnP (isSeparator : α → Bool) (whole : List α) :
    splitAt isSeparator whole = whole.splitOnP isSeparator := by
  induction whole with
  | nil => rfl
  | cons item rest induction =>
      obtain ⟨piece, pieces, cut⟩ :=
        List.exists_cons_of_ne_nil (@splitAt_ne_nil _ isSeparator rest)
      rw [splitAt, List.splitOnP_cons_eq_if_modifyHead, ← induction, cut]
      rfl

theorem intercalate_splitAt [BEq α] [LawfulBEq α] (separator : α) (whole : List α) :
    [separator].intercalate (splitAt (· == separator) whole) = whole := by
  rw [splitAt_eq_splitOnP, ← List.splitOn_eq_splitOnP, List.intercalate_splitOn]

theorem splitAt_intercalate [BEq α] [LawfulBEq α] (separator : α) {pieces : List (List α)}
    (free : ∀ piece ∈ pieces, separator ∉ piece) (present : pieces ≠ []) :
    splitAt (· == separator) ([separator].intercalate pieces) = pieces := by
  rw [splitAt_eq_splitOnP, ← List.splitOn_eq_splitOnP,
    List.splitOn_intercalate separator free present]

theorem splitAt_append_cons (left : List α) (separates : isSeparator separator) :
    splitAt isSeparator (left ++ separator :: rest) =
      splitAt isSeparator left ++ splitAt isSeparator rest := by
  simp only [splitAt_eq_splitOnP, List.splitOnP_append_cons left rest separates]

theorem splitAt_eq_cons (isSeparator : α → Bool) (whole : List α) :
    splitAt isSeparator whole =
      (whole.takeWhile fun item => !isSeparator item) :: (splitAt isSeparator whole).drop 1 := by
  induction whole with
  | nil => rfl
  | cons item rest induction =>
      rw [splitAt, List.takeWhile_cons]
      cases isSeparator item with
      | true => rfl
      | false =>
          rw [if_neg Bool.false_ne_true, induction]
          rfl

theorem splitAt_append_left (free : ∀ item ∈ piece, isSeparator item = false) (rest : List α) :
    splitAt isSeparator (piece ++ rest) =
      (piece ++ rest.takeWhile fun item => !isSeparator item) ::
        (splitAt isSeparator rest).drop 1 := by
  induction piece with
  | nil => exact splitAt_eq_cons isSeparator rest
  | cons item piece induction =>
      obtain ⟨first, others⟩ := List.forall_mem_cons.mp free
      rw [List.cons_append, splitAt, first, if_neg Bool.false_ne_true, induction others,
        List.cons_append]

theorem free_of_mem_splitAt {whole : List α} (member : piece ∈ splitAt isSeparator whole) :
    ∀ item ∈ piece, isSeparator item = false := by
  induction whole generalizing piece with
  | nil =>
      cases List.mem_singleton.mp member
      exact fun _ absent => absurd absent List.not_mem_nil
  | cons item rest induction =>
      rw [splitAt] at member
      split at member
      · rcases List.mem_cons.mp member with rfl | later
        · exact fun _ absent => absurd absent List.not_mem_nil
        · exact induction later
      · next plain =>
          rw [splitAt_eq_cons] at member induction
          rcases List.mem_cons.mp member with rfl | later
          · exact List.forall_mem_cons.mpr
              ⟨Bool.eq_false_iff.mpr plain, induction List.mem_cons_self⟩
          · exact induction (List.mem_cons_of_mem _ later)

theorem exists_of_mem_drop_splitAt {whole : List α}
    (member : piece ∈ (splitAt isSeparator whole).drop 1) :
    ∃ before separator rest, isSeparator separator = true ∧
      whole = before ++ separator :: (piece ++ rest) := by
  induction whole with
  | nil => cases member
  | cons item whole induction =>
      have later (listed : piece ∈ (splitAt isSeparator whole).drop 1) :
          ∃ before separator rest, isSeparator separator = true ∧
            item :: whole = before ++ separator :: (piece ++ rest) := by
        obtain ⟨before, separator, rest, separates, rfl⟩ := induction listed
        exact ⟨item :: before, separator, rest, separates, rfl⟩
      rw [splitAt] at member
      split at member
      · next separates =>
          rw [List.drop_succ_cons, List.drop_zero, splitAt_eq_cons] at member
          rcases List.mem_cons.mp member with rfl | listed
          · exact ⟨[], item, _, separates, by rw [List.takeWhile_append_dropWhile]; rfl⟩
          · exact later listed
      · rw [splitAt_eq_cons] at member
        exact later member

end Splitting

section Trimming

variable {isBlank : α → Bool}

theorem trimBoth_cons {blank : α} (isBlank_blank : isBlank blank) (rest : List α) :
    trimBoth isBlank (blank :: rest) = trimBoth isBlank rest := by
  rw [trimBoth, trimStart, List.dropWhile_cons_of_pos isBlank_blank, trimBoth, trimStart]

theorem trimBoth_of_ends {first last : α} (firstStays : isBlank first = false)
    (lastStays : isBlank last = false) (inner : List α) :
    trimBoth isBlank (first :: (inner ++ [last])) = first :: (inner ++ [last]) := by
  have start : trimStart isBlank (first :: (inner ++ [last])) = first :: (inner ++ [last]) :=
    List.dropWhile_cons_of_neg (by simp [firstStays])
  have backwards : (first :: (inner ++ [last])).reverse = last :: (inner.reverse ++ [first]) := by
    simp
  rw [trimBoth, start, trimEnd, backwards, List.dropWhile_cons_of_neg (by simp [lastStays])]
  simp

private theorem dropWhile_free {whole : List α} (free : ∀ item ∈ whole, isBlank item = false) :
    whole.dropWhile isBlank = whole := by
  cases whole with
  | nil => rfl
  | cons item rest => exact List.dropWhile_cons_of_neg (by simp [free item List.mem_cons_self])

private theorem trimEnd_free {whole : List α} (free : ∀ item ∈ whole, isBlank item = false) :
    trimEnd isBlank whole = whole := by
  rw [trimEnd, dropWhile_free fun item member => free item (List.mem_reverse.mp member),
    List.reverse_reverse]

private theorem trimEnd_concat {blank : α} (isBlank_blank : isBlank blank) (whole : List α) :
    trimEnd isBlank (whole ++ [blank]) = trimEnd isBlank whole := by
  rw [trimEnd, List.reverse_append, List.reverse_singleton, List.singleton_append,
    List.dropWhile_cons_of_pos isBlank_blank, trimEnd]

theorem trimBoth_free {whole : List α} (free : ∀ item ∈ whole, isBlank item = false) :
    trimBoth isBlank whole = whole := by
  rw [trimBoth, trimStart, dropWhile_free free, trimEnd_free free]

theorem trimBoth_enclosed {blank : α} (isBlank_blank : isBlank blank) {whole : List α}
    (free : ∀ item ∈ whole, isBlank item = false) :
    trimBoth isBlank (blank :: (whole ++ [blank])) = whole := by
  rw [trimBoth_cons isBlank_blank]
  cases whole with
  | nil => exact trimBoth_cons isBlank_blank []
  | cons item rest =>
      have start : trimStart isBlank (item :: rest ++ [blank]) = item :: rest ++ [blank] :=
        List.dropWhile_cons_of_neg (by simp [free item List.mem_cons_self])
      rw [trimBoth, start, trimEnd_concat isBlank_blank, trimEnd_free free]

private theorem trimEnd_isPrefix (whole : List α) : trimEnd isBlank whole <+: whole := by
  rw [trimEnd, ← List.reverse_suffix, List.reverse_reverse]
  exact List.dropWhile_suffix isBlank

theorem trimBoth_infix (whole : List α) : trimBoth isBlank whole <:+: whole :=
  (trimEnd_isPrefix _).isInfix.trans (List.dropWhile_suffix isBlank).isInfix

/-- Trimming leaves nothing of a last item that is blank. -/
theorem trimEnd_infix_of_infix_concat {blank : α} (isBlank_blank : isBlank blank)
    {part whole : List α} (inside : part <:+: whole ++ [blank]) :
    trimEnd isBlank part <:+: whole := by
  rcases List.infix_concat_iff.mp inside with ending | inside
  · rcases List.suffix_concat_iff.mp ending with rfl | ⟨rest, rfl, inner⟩
    · exact List.nil_infix
    · rw [trimEnd_concat isBlank_blank]
      exact (trimEnd_isPrefix rest).isInfix.trans inner.isInfix
  · exact (trimEnd_isPrefix part).isInfix.trans inside

theorem mem_trimBoth {item : α} {whole : List α} (member : item ∈ whole)
    (stays : isBlank item = false) : item ∈ trimBoth isBlank whole := by
  have remains {items : List α} (member : item ∈ items) : item ∈ items.dropWhile isBlank := by
    rw [← List.takeWhile_append_dropWhile (p := isBlank) (l := items)] at member
    rcases List.mem_append.mp member with dropped | kept
    · rw [List.all_eq_true.mp List.all_takeWhile item dropped] at stays
      cases stays
    · exact kept
  exact List.mem_reverse.mpr (remains (List.mem_reverse.mpr (remains member)))

end Trimming

end ServiceStub.Text
