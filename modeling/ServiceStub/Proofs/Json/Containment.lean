import ServiceStub.Pattern.Basic
import ServiceStub.Proofs.Assoc
import ServiceStub.Proofs.Decimal.Double
import ServiceStub.Proofs.Matching
import Mathlib.Algebra.Module.Submodule.Lattice
import Mathlib.Data.Fin.VecNotation

/-!
When a document holds everything that another one asks for.  Numbers are compared as doubles, which
loses nothing where doubles stand for them, and takes larger integers for one another.
-/

namespace ServiceStub

namespace JsonNumber

def value? : JsonNumber → Option Rat
  | .integer value => some value
  | .double value => Double.value? value

def SameValue (expected actual : JsonNumber) : Prop :=
  ∃ value, expected.value? = some value ∧ actual.value? = some value

def SameDouble (expected actual : JsonNumber) : Prop :=
  (expected.toFloat == actual.toFloat) = true

def IsExact (number : JsonNumber) : Prop :=
  ∃ value stored, number.value? = some value ∧ Double.value? stored = some value

variable {number expected actual : JsonNumber}

private theorem isExact_of_natAbs_le {value : Int} (bound : value.natAbs ≤ 2 ^ 53) :
    IsExact (.integer value) :=
  ⟨value, Float.ofInt value, rfl, Double.value?_ofInt_of_natAbs_le bound⟩

private theorem IsExact.value?_toFloat (exact : IsExact number) :
    ∃ value, number.value? = some value ∧ Double.value? number.toFloat = some value := by
  obtain ⟨value, stored, isValue, isStored⟩ := exact
  refine ⟨value, isValue, ?_⟩
  cases number with
  | integer integer =>
      cases isValue
      exact Double.value?_ofInt isStored
  | double own => exact isValue

private theorem sameDouble_iff_sameValue (expectedExact : expected.IsExact)
    (actualExact : actual.IsExact) :
    SameDouble expected actual ↔ SameValue expected actual := by
  obtain ⟨value, isValue, isDouble⟩ := expectedExact.value?_toFloat
  obtain ⟨other, isOther, isOtherDouble⟩ := actualExact.value?_toFloat
  rw [SameDouble, Double.beq_iff_value_eq isDouble isOtherDouble, SameValue, isValue, isOther]
  simp [eq_comm]

private theorem SameValue.sameDouble (same : SameValue expected actual) :
    SameDouble expected actual := by
  obtain ⟨value, isValue, isOther⟩ := id same
  cases expected with
  | double stored =>
      exact (sameDouble_iff_sameValue ⟨value, stored, isValue, isValue⟩
        ⟨value, stored, isOther, isValue⟩).mpr same
  | integer integer =>
      cases actual with
      | double stored =>
          exact (sameDouble_iff_sameValue ⟨value, stored, isValue, isOther⟩
            ⟨value, stored, isOther, isOther⟩).mpr same
      | integer other =>
          have integers : integer = other := by
            simpa [value?] using isValue.trans isOther.symm
          rw [integers]
          exact Double.beq_self_ofInt other

end JsonNumber

namespace Json

inductive Occurs (number : JsonNumber) : Json → Prop where
  | number : Occurs number (.number number)
  | array {items : List Json} {item : Json} (member : item ∈ items) (occurs : Occurs number item) :
      Occurs number (.array items)
  | object {members : List (String × Json)} {key : String} {value : Json}
      (member : (key, value) ∈ members) (occurs : Occurs number value) :
      Occurs number (.object members)

theorem occurs_number_iff {number other : JsonNumber} :
    Occurs number (.number other) ↔ number = other :=
  ⟨by rintro ⟨⟩; rfl, by rintro rfl; exact .number⟩

theorem occurs_array_iff {number : JsonNumber} {items : List Json} :
    Occurs number (.array items) ↔ ∃ item ∈ items, Occurs number item :=
  ⟨by rintro (_ | ⟨member, occurs⟩); exact ⟨_, member, occurs⟩,
    fun ⟨_, member, occurs⟩ => .array member occurs⟩

/-- Every member that is expected is held by a member with its key, and every item by an item of
its own, where `agree` tells which number holds which. -/
inductive ContainedIn (agree : JsonNumber → JsonNumber → Prop) : Json → Json → Prop where
  | null : ContainedIn agree .null .null
  | bool (value : Bool) : ContainedIn agree (.bool value) (.bool value)
  | string (text : String) : ContainedIn agree (.string text) (.string text)
  | number {expected actual : JsonNumber} (agreed : agree expected actual) :
      ContainedIn agree (.number expected) (.number actual)
  | array {expected actual : List Json} (assigned : Fin expected.length ↪ Fin actual.length)
      (contained : ∀ index, ContainedIn agree expected[index] actual[assigned index]) :
      ContainedIn agree (.array expected) (.array actual)
  | object {expected actual : List (String × Json)} (held : String → Json)
      (found : ∀ member ∈ expected, Assoc.find? member.1 actual = some (held member.1))
      (contained : ∀ member ∈ expected, ContainedIn agree member.2 (held member.1)) :
      ContainedIn agree (.object expected) (.object actual)

variable {agree other : JsonNumber → JsonNumber → Prop} {expected actual : Json}

theorem ContainedIn.mono (contained : ContainedIn agree expected actual)
    (implied : ∀ number held, Occurs number expected → Occurs held actual →
      agree number held → other number held) : ContainedIn other expected actual := by
  induction contained with
  | null => exact .null
  | bool value => exact .bool value
  | string text => exact .string text
  | number agreed => exact .number (implied _ _ .number .number agreed)
  | array assigned contained induction =>
      refine .array assigned fun index => induction index fun number held occurs heldOccurs => ?_
      exact implied number held (.array (List.getElem_mem _) occurs)
        (.array (List.getElem_mem _) heldOccurs)
  | object held found contained induction =>
      refine .object held found fun member listed =>
        induction member listed fun number holding occurs holdingOccurs => ?_
      exact implied number holding (.object listed occurs)
        (.object (Assoc.mem_of_find? (found member listed)) holdingOccurs)

private theorem length_inclusions (expected actual : List Json) :
    (inclusions expected actual).length = expected.length := by
  induction expected with
  | nil => rfl
  | cons item rest induction => rw [inclusions, List.length_cons, induction, List.length_cons]

private theorem edge_inclusions {expected actual : List Json} {row column : Nat}
    (rowBound : row < expected.length) (columnBound : column < actual.length) :
    Matching.edge (inclusions expected actual) row column =
      expected[row].includes actual[column] := by
  induction expected generalizing row with
  | nil => simp at rowBound
  | cons item rest induction =>
      cases row with
      | zero => simp [Matching.edge, inclusions, columnBound]
      | succ row =>
          simpa [Matching.edge, inclusions] using induction (Nat.lt_of_succ_lt_succ rowBound)

private theorem includesMembers_iff {expected actual : List (String × Json)} :
    includesMembers expected actual = true ↔
      ∀ member ∈ expected, ∃ value, Assoc.find? member.1 actual = some value ∧
        member.2.includes value = true := by
  induction expected with
  | nil => simp [includesMembers]
  | cons member rest induction =>
      rw [includesMembers, Bool.and_eq_true, induction, List.forall_mem_cons]
      refine and_congr_left' ?_
      cases Assoc.find? member.1 actual <;> simp

private theorem includes_array_iff {expected actual : List Json} :
    (Json.array expected).includes (.array actual) = true ↔
      ∃ assigned : Fin expected.length ↪ Fin actual.length,
        ∀ index : Fin expected.length, expected[index].includes actual[assigned index] = true := by
  have largest := Matching.maximum_eq_length_iff (inclusions expected actual) actual.length
  rw [length_inclusions] at largest
  rw [includes, Bool.and_eq_true, decide_eq_true_iff, beq_iff_eq, largest]
  constructor
  · rintro ⟨-, assigned, edges⟩
    exact ⟨assigned, fun index => by
      rw [← edges index, edge_inclusions index.isLt (assigned index).isLt]
      rfl⟩
  · rintro ⟨assigned, held⟩
    refine ⟨by simpa using Fintype.card_le_of_embedding assigned, assigned, fun index => ?_⟩
    rw [edge_inclusions index.isLt (assigned index).isLt]
    exact held index

mutual

/-- The containers that are found are those whose numbers are the same doubles. -/
theorem includes_iff_containedIn (expected actual : Json) :
    expected.includes actual = true ↔ ContainedIn JsonNumber.SameDouble expected actual := by
  cases expected with
  | null =>
      cases actual with
      | null => exact ⟨fun _ => .null, fun _ => rfl⟩
      | _ => exact ⟨nofun, nofun⟩
  | bool value =>
      cases actual with
      | bool other =>
          have equal : (Json.bool value).includes (.bool other) = (other == value) := rfl
          rw [equal, beq_iff_eq]
          exact ⟨by rintro rfl; exact .bool _, by rintro ⟨⟩; rfl⟩
      | _ => exact ⟨nofun, nofun⟩
  | string text =>
      cases actual with
      | string other =>
          have equal : (Json.string text).includes (.string other) = (other == text) := rfl
          rw [equal, beq_iff_eq]
          exact ⟨by rintro rfl; exact .string _, by rintro ⟨⟩; rfl⟩
      | _ => exact ⟨nofun, nofun⟩
  | number value =>
      cases actual with
      | number other => exact ⟨fun same => .number same, by rintro ⟨⟩; assumption⟩
      | _ => exact ⟨nofun, nofun⟩
  | array items =>
      cases actual with
      | array others =>
          have each (index : Fin items.length) (other : Json) :=
            items_includes_iff_containedIn items items[index] (List.getElem_mem _) other
          rw [includes_array_iff]
          constructor
          · rintro ⟨assigned, held⟩
            exact .array assigned fun index => (each index _).mp (held index)
          · rintro (_ | _ | _ | _ | ⟨assigned, contained⟩)
            exact ⟨assigned, fun index => (each index _).mpr (contained index)⟩
      | _ => exact ⟨nofun, nofun⟩
  | object members =>
      cases actual with
      | object others =>
          have each := members_includes_iff_containedIn members
          rw [includes, includesMembers_iff]
          constructor
          · intro held
            refine .object (fun key => (Assoc.find? key others).getD .null)
              (fun member listed => ?_) fun member listed => ?_
            · obtain ⟨value, found, -⟩ := held member listed
              rw [found, Option.getD_some]
            · obtain ⟨value, found, included⟩ := held member listed
              rw [found, Option.getD_some]
              exact (each member listed value).mp included
          · rintro (_ | _ | _ | _ | _ | ⟨held, found, contained⟩)
            exact fun member listed => ⟨held member.1, found member listed,
              (each member listed _).mpr (contained member listed)⟩
      | _ => exact ⟨nofun, nofun⟩

private theorem items_includes_iff_containedIn (expected : List Json) :
    ∀ item ∈ expected, ∀ actual : Json,
      item.includes actual = true ↔ ContainedIn JsonNumber.SameDouble item actual := by
  cases expected with
  | nil => exact fun _ absent => absurd absent List.not_mem_nil
  | cons item rest =>
      exact List.forall_mem_cons.mpr
        ⟨includes_iff_containedIn item, items_includes_iff_containedIn rest⟩

private theorem members_includes_iff_containedIn (expected : List (String × Json)) :
    ∀ member ∈ expected, ∀ actual : Json,
      member.2.includes actual = true ↔ ContainedIn JsonNumber.SameDouble member.2 actual := by
  cases expected with
  | nil => exact fun _ absent => absurd absent List.not_mem_nil
  | cons member rest =>
      exact List.forall_mem_cons.mpr
        ⟨includes_iff_containedIn member.2, members_includes_iff_containedIn rest⟩

end

private theorem ContainedIn.sameDouble
    (contained : ContainedIn JsonNumber.SameValue expected actual) :
    ContainedIn JsonNumber.SameDouble expected actual :=
  contained.mono fun _ _ _ _ same => same.sameDouble

/-- Comparing doubles loses nothing where doubles stand for all numbers. -/
theorem containedIn_sameDouble_iff
    (exact : ∀ number, Occurs number expected ∨ Occurs number actual → number.IsExact) :
    ContainedIn JsonNumber.SameDouble expected actual ↔
      ContainedIn JsonNumber.SameValue expected actual := by
  refine ⟨fun contained => contained.mono fun number held occurs heldOccurs => ?_,
    ContainedIn.sameDouble⟩
  exact (JsonNumber.sameDouble_iff_sameValue (exact number (.inl occurs))
    (exact held (.inr heldOccurs))).mp

end Json

namespace JsonEquality

variable {R : Type} [Scalar R] [MatchResult.DecidesExactness R]

/-- What is not contained is compared once more, but never comes out as an exact match. -/
theorem isExact_evaluateDocument_iff (expected actual : Json) :
    (JsonEquality.evaluateDocument ⟨expected, true, true⟩ actual : MatchResult R).isExact = true ↔
      expected.includes actual = true := by
  simp only [evaluateDocument, Bool.and_self, Bool.true_and, if_true]
  split
  · next included => exact iff_of_true MatchResult.DecidesExactness.isExact_exact included
  · next missing =>
      refine iff_of_false ?_ missing
      split <;> rw [MatchResult.DecidesExactness.isExact_mismatch] <;> decide

end JsonEquality

namespace Pattern

section

variable {R : Type} [Scalar R] [MatchResult.DecidesExactness R] {expected actual : Json}
  {text : String}

theorem isExact_lenient_iff (now : Calendar.Instant) (parsed : Json.parse text = some actual) :
    (evaluate now (.equalToJson ⟨expected, true, true⟩) (some text) : MatchResult R).isExact ↔
      expected.ContainedIn JsonNumber.SameDouble actual := by
  change (JsonEquality.evaluate ⟨expected, true, true⟩ text : MatchResult R).isExact = true ↔ _
  rw [JsonEquality.evaluate, parsed]
  exact (JsonEquality.isExact_evaluateDocument_iff expected actual).trans
    (Json.includes_iff_containedIn expected actual)

/-- A lenient pattern matches exactly the documents that hold everything it asks for, number by
number as doubles.  It finds every container, and nothing else where doubles stand for all the
numbers. -/
theorem lenient_exact_iff_contained (now : Calendar.Instant)
    (parsed : Json.parse text = some actual) :
    ((evaluate now (.equalToJson ⟨expected, true, true⟩) (some text) : MatchResult R).isExact ↔
        expected.ContainedIn JsonNumber.SameDouble actual) ∧
      (expected.ContainedIn JsonNumber.SameValue actual →
        (evaluate now (.equalToJson ⟨expected, true, true⟩) (some text) : MatchResult R).isExact) ∧
      ((∀ number, Json.Occurs number expected ∨ Json.Occurs number actual → number.IsExact) →
        ((evaluate now (.equalToJson ⟨expected, true, true⟩) (some text) : MatchResult R).isExact ↔
          expected.ContainedIn JsonNumber.SameValue actual)) := by
  have outcome : (evaluate now (.equalToJson ⟨expected, true, true⟩) (some text) :
      MatchResult R).isExact ↔ expected.ContainedIn JsonNumber.SameDouble actual :=
    isExact_lenient_iff now parsed
  exact ⟨outcome, fun contained => outcome.mpr contained.sameDouble,
    fun exact => outcome.trans (Json.containedIn_sameDouble_iff exact)⟩

end

/-- The double one is held by the integer one, which stands further on. -/
theorem lenient_exact_reordered :
    let expected : Json := .array [.number (.double 1), .ofInt 2]
    let actual : Json := .array [.ofInt 2, .ofInt 3, .ofInt 1]
    Json.parse "[2,3,1]" = some actual ∧
      (∀ number, Json.Occurs number expected ∨ Json.Occurs number actual → number.IsExact) ∧
      expected.ContainedIn JsonNumber.SameValue actual ∧
      (evaluate ⟨0, 0⟩ (.equalToJson ⟨expected, true, true⟩) (some "[2,3,1]") :
        MatchResult Float).isExact := by
  intro expected actual
  have parsed : Json.parse "[2,3,1]" = some actual := by cbv
  have one : Double.value? 1 = some 1 :=
    Double.value?_ofInt_of_natAbs_le (by decide : (1 : Int).natAbs ≤ 2 ^ 53)
  have exact : ∀ number, Json.Occurs number expected ∨ Json.Occurs number actual →
      number.IsExact := by
    intro number occurs
    simp only [expected, actual, Json.ofInt, Json.occurs_array_iff, Json.occurs_number_iff,
      List.mem_cons, List.not_mem_nil, or_false, exists_eq_or_imp, exists_eq_left] at occurs
    rcases occurs with (rfl | rfl) | (rfl | rfl | rfl)
    · exact ⟨1, 1, one, one⟩
    all_goals exact JsonNumber.isExact_of_natAbs_le (by decide)
  have contained : expected.ContainedIn JsonNumber.SameValue actual := by
    have each : ∀ index : Fin 2, Json.ContainedIn JsonNumber.SameValue
        [Json.number (.double 1), .ofInt 2][index]
        [Json.ofInt 2, .ofInt 3, .ofInt 1][(![2, 0] : Fin 2 → Fin 3) index] :=
      Fin.forall_fin_two.mpr ⟨.number ⟨1, one, by norm_num [JsonNumber.value?]⟩,
        .number ⟨2, by norm_num [JsonNumber.value?], by norm_num [JsonNumber.value?]⟩⟩
    exact .array ⟨(![2, 0] : Fin 2 → Fin 3), by decide⟩ each
  exact ⟨parsed, exact, contained,
    ((lenient_exact_iff_contained ⟨0, 0⟩ parsed).2.2 exact).mpr contained⟩

/-- Integers that differ in their 54th bit are taken for one another. -/
theorem lenient_exact_of_different_integers :
    Json.parse "9007199254740992" = some (.ofInt 9007199254740992) ∧
      (evaluate ⟨0, 0⟩ (.equalToJson ⟨.ofInt 9007199254740993, true, true⟩)
        (some "9007199254740992") : MatchResult Float).isExact ∧
      ¬ (Json.ofInt 9007199254740993).ContainedIn JsonNumber.SameValue
        (.ofInt 9007199254740992) := by
  have parsed : Json.parse "9007199254740992" = some (.ofInt 9007199254740992) := by cbv
  refine ⟨parsed, (isExact_lenient_iff ⟨0, 0⟩ parsed).mpr (.number ?_), ?_⟩
  · change (Float.ofInt 9007199254740993 == Float.ofInt 9007199254740992) = true
    decide +kernel
  · rintro (_ | _ | _ | ⟨value, isValue, isOther⟩)
    rw [← isOther] at isValue
    norm_num [JsonNumber.value?] at isValue

end Pattern

end ServiceStub
