import ServiceStub.Proofs.Json.Reordering

/-!
What the two ways of leniency add.  Documents that agree place by place are also contained in one
another, in any order.  Only where zeros differ in sign can the comparison of sorted documents miss
what the comparison of documents as they stand finds.
-/

namespace ServiceStub

namespace JsonNumber

variable {expected actual : JsonNumber}

theorem equal_cases (equal : actual.equal expected) :
    expected = actual ∨ (expected = .double 0 ∧ actual = .double (-0)) ∨
      expected = .double (-0) ∧ actual = .double 0 := by
  cases actual with
  | integer value =>
      cases expected with
      | integer other => exact .inl (congrArg _ (eq_of_beq equal).symm)
      | double other => cases equal
  | double value =>
      cases expected with
      | integer other => cases equal
      | double other =>
          rcases Double.eq_or_zeros_of_beq equal with rfl | ⟨rfl, rfl⟩ | ⟨rfl, rfl⟩
          · exact .inl rfl
          · exact .inr (.inr ⟨rfl, rfl⟩)
          · exact .inr (.inl ⟨rfl, rfl⟩)

theorem equal_symm (equal : actual.equal expected) : expected.equal actual := by
  rcases equal_cases equal with same | ⟨rfl, rfl⟩ | ⟨rfl, rfl⟩
  · rwa [same] at equal ⊢
  · rfl
  · rfl

private theorem sameDouble_of_equal (equal : actual.equal expected) :
    SameDouble expected actual := by
  have equal := equal_symm equal
  cases expected with
  | integer value =>
      cases actual with
      | integer other =>
          rw [eq_of_beq equal]
          exact Double.beq_self_ofInt other
      | double other => cases equal
  | double value =>
      cases actual with
      | integer other => cases equal
      | double other => exact equal

end JsonNumber

namespace Json

/-- What is expected is there, in the place where it is expected; if the comparison is strict, then
nothing else is there. -/
inductive Agrees (comparison : Comparison) : Json → Json → Prop where
  | null : Agrees comparison .null .null
  | bool (value : Bool) : Agrees comparison (.bool value) (.bool value)
  | string (text : String) : Agrees comparison (.string text) (.string text)
  | number {expected actual : JsonNumber} (equal : actual.equal expected) :
      Agrees comparison (.number expected) (.number actual)
  | array {expected actual : List Json} (long : expected.length ≤ actual.length)
      (whole : comparison = .strict → actual.length ≤ expected.length)
      (each : ∀ (index : Nat) (bound : index < expected.length)
        (otherBound : index < actual.length), Agrees comparison expected[index] actual[index]) :
      Agrees comparison (.array expected) (.array actual)
  | object {expected actual : List (String × Json)} (held : String → Json)
      (found : ∀ member ∈ expected, Assoc.find? member.1 actual = some (held member.1))
      (each : ∀ member ∈ expected, Agrees comparison member.2 (held member.1))
      (known : comparison = .strict → Assoc.keys actual ⊆ Assoc.keys expected) :
      Agrees comparison (.object expected) (.object actual)

variable {comparison : Comparison} {path : String} {index : Nat}

private theorem itemDifferences_nil_eq_nil_iff {actual : List Json} :
    itemDifferences comparison path index [] actual = [] ↔
      (comparison = .strict → actual.length ≤ 0) := by
  cases comparison with
  | inclusive => simp [itemDifferences]
  | strict =>
      rw [itemDifferences, List.map_eq_nil_iff, List.range_eq_nil]
      simp

private theorem surplus_eq_nil_iff (path : String) (expected actual : List (String × Json)) :
    (match comparison with
      | .inclusive => []
      | .strict =>
          (actual.filter fun member => (Assoc.find? member.1 expected).isNone).map
            fun member => path ++ "." ++ member.1) = [] ↔
      (comparison = .strict → Assoc.keys actual ⊆ Assoc.keys expected) := by
  cases comparison with
  | inclusive => simp
  | strict =>
      simp only [List.map_eq_nil_iff, List.filter_eq_nil_iff, Option.isNone_iff_eq_none,
        Assoc.find?_eq_none_iff, not_not, true_imp_iff]
      exact List.forall_mem_map.symm

mutual

private theorem differences_eq_nil_iff (path : String) (expected actual : Json) :
    differences comparison path expected actual = [] ↔ Agrees comparison expected actual := by
  cases expected with
  | null =>
      cases actual with
      | null => exact ⟨fun _ => .null, fun _ => rfl⟩
      | _ => exact ⟨nofun, nofun⟩
  | bool value =>
      cases actual with
      | bool other =>
          have equal : (Json.bool other == Json.bool value) = (other == value) := rfl
          simp only [differences, equal, beq_iff_eq, ite_eq_left_iff, List.cons_ne_nil, imp_false,
            not_not]
          exact ⟨by rintro rfl; exact .bool _, by rintro ⟨⟩; rfl⟩
      | _ => exact ⟨nofun, nofun⟩
  | string text =>
      cases actual with
      | string other =>
          have equal : (Json.string other == Json.string text) = (other == text) := rfl
          simp only [differences, equal, beq_iff_eq, ite_eq_left_iff, List.cons_ne_nil, imp_false,
            not_not]
          exact ⟨by rintro rfl; exact .string _, by rintro ⟨⟩; rfl⟩
      | _ => exact ⟨nofun, nofun⟩
  | number value =>
      cases actual with
      | number other =>
          have equal : (Json.number other == Json.number value) = other.equal value := rfl
          simp only [differences, equal, ite_eq_left_iff, List.cons_ne_nil, imp_false, not_not]
          exact ⟨.number, fun | .number equal => equal⟩
      | _ => exact ⟨nofun, nofun⟩
  | array items =>
      cases actual with
      | array others =>
          rw [differences, itemDifferences_eq_nil_iff path 0 items others]
          exact ⟨fun ⟨long, whole, each⟩ => .array long whole each,
            fun | .array long whole each => ⟨long, whole, each⟩⟩
      | _ => exact ⟨nofun, nofun⟩
  | object members =>
      cases actual with
      | object others =>
          simp only [differences, List.append_eq_nil_iff]
          refine (and_congr (memberDifferences_eq_nil_iff path members others)
            (surplus_eq_nil_iff path members others)).trans ?_
          constructor
          · rintro ⟨held, known⟩
            refine .object (fun key => (Assoc.find? key others).getD .null)
              (fun member listed => ?_) (fun member listed => ?_) known
            · obtain ⟨value, found, -⟩ := held member listed
              rw [found, Option.getD_some]
            · obtain ⟨value, found, agrees⟩ := held member listed
              rw [found, Option.getD_some]
              exact agrees
          · rintro (_ | _ | _ | _ | _ | ⟨held, found, each, known⟩)
            exact ⟨fun member listed => ⟨held member.1, found member listed, each member listed⟩,
              known⟩
      | _ => exact ⟨nofun, nofun⟩

private theorem itemDifferences_eq_nil_iff (path : String) (index : Nat)
    (expected actual : List Json) :
    itemDifferences comparison path index expected actual = [] ↔
      expected.length ≤ actual.length ∧
        (comparison = .strict → actual.length ≤ expected.length) ∧
        ∀ (index : Nat) (bound : index < expected.length) (otherBound : index < actual.length),
          Agrees comparison expected[index] actual[index] := by
  cases expected with
  | nil =>
      rw [itemDifferences_nil_eq_nil_iff]
      exact ⟨fun whole => ⟨Nat.zero_le _, whole, fun _ bound => absurd bound (Nat.not_lt_zero _)⟩,
        fun agreed => agreed.2.1⟩
  | cons item rest =>
      cases actual with
      | nil => simp [itemDifferences]
      | cons other others =>
          rw [itemDifferences, List.append_eq_nil_iff, differences_eq_nil_iff,
            itemDifferences_eq_nil_iff path (index + 1) rest others]
          simp only [List.length_cons, Nat.add_le_add_iff_right]
          constructor
          · rintro ⟨first, long, whole, each⟩
            refine ⟨long, whole, fun index bound otherBound => ?_⟩
            cases index with
            | zero => exact first
            | succ index =>
                exact each index (Nat.lt_of_succ_lt_succ bound) (Nat.lt_of_succ_lt_succ otherBound)
          · rintro ⟨long, whole, each⟩
            exact ⟨each 0 (Nat.zero_lt_succ _) (Nat.zero_lt_succ _), long, whole,
              fun index bound otherBound =>
                each (index + 1) (Nat.succ_lt_succ bound) (Nat.succ_lt_succ otherBound)⟩

private theorem memberDifferences_eq_nil_iff (path : String)
    (expected actual : List (String × Json)) :
    memberDifferences comparison path expected actual = [] ↔
      ∀ member ∈ expected, ∃ value, Assoc.find? member.1 actual = some value ∧
        Agrees comparison member.2 value := by
  cases expected with
  | nil => simp [memberDifferences]
  | cons member rest =>
      rw [memberDifferences, List.append_eq_nil_iff,
        memberDifferences_eq_nil_iff path rest actual, List.forall_mem_cons]
      refine and_congr_left' ?_
      cases Assoc.find? member.1 actual with
      | none => simp
      | some other => simp [differences_eq_nil_iff (path ++ "." ++ member.1) member.2 other]

end

theorem Agrees.inclusive {expected actual : Json} (agrees : Agrees .strict expected actual) :
    Agrees .inclusive expected actual := by
  induction agrees with
  | null => exact .null
  | bool value => exact .bool value
  | string text => exact .string text
  | number equal => exact .number equal
  | array long whole each induction => exact .array long nofun induction
  | object held found each known induction => exact .object held found induction nofun

theorem Agrees.containedIn {expected actual : Json} (agrees : Agrees comparison expected actual) :
    ContainedIn JsonNumber.SameDouble expected actual := by
  induction agrees with
  | null => exact .null
  | bool value => exact .bool value
  | string text => exact .string text
  | number equal => exact .number (JsonNumber.sameDouble_of_equal equal)
  | array long whole each induction =>
      exact .array (Fin.castLEEmb long) fun index => induction index index.isLt _
  | object held found each known induction => exact .object held found induction

/-- In some place one document has a zero and the other one a zero of the other sign. -/
inductive Opposed : Json → Json → Prop where
  | number {left right : Float} (zeros : (left = 0 ∧ right = -0) ∨ left = -0 ∧ right = 0) :
      Opposed (.number (.double left)) (.number (.double right))
  | array {items others : List Json} {index : Nat} (bound : index < items.length)
      (otherBound : index < others.length) (inner : Opposed items[index] others[index]) :
      Opposed (.array items) (.array others)
  | object {members others : List (String × Json)} {key : String} {value other : Json}
      (found : Assoc.find? key members = some value)
      (otherFound : Assoc.find? key others = some other) (inner : Opposed value other) :
      Opposed (.object members) (.object others)

/-- Nothing but the sign of a zero can tell documents apart that agree strictly. -/
theorem Agrees.eq_of_not_opposed {expected actual : Json} (agrees : Agrees .strict expected actual)
    (canonical : expected.IsCanonical) (actualCanonical : actual.IsCanonical)
    (apart : ¬ Opposed expected actual) : expected = actual := by
  induction agrees with
  | null => rfl
  | bool value => rfl
  | string text => rfl
  | number equal =>
      rcases JsonNumber.equal_cases equal with same | ⟨rfl, rfl⟩ | ⟨rfl, rfl⟩
      · exact congrArg Json.number same
      · exact absurd (.number (.inl ⟨rfl, rfl⟩)) apart
      · exact absurd (.number (.inr ⟨rfl, rfl⟩)) apart
  | array long whole each induction =>
      refine congrArg Json.array (List.ext_getElem (Nat.le_antisymm long (whole rfl)) ?_)
      intro index bound otherBound
      exact induction index bound otherBound (canonical.items _ (List.getElem_mem bound))
        (actualCanonical.items _ (List.getElem_mem otherBound))
        fun inner => apart (.array bound otherBound inner)
  | @object members others held found each known induction =>
      have ascending := canonical.ascending
      have otherAscending := actualCanonical.ascending
      have same : ∀ member ∈ members, held member.1 = member.2 := by
        intro member listed
        have own : Assoc.find? member.1 members = some member.2 := ascending.find?_of_mem listed
        have holding := found member listed
        exact (induction member listed (canonical.values member listed)
          (actualCanonical.values _ (Assoc.mem_of_find? holding))
          fun inner => apart (.object own holding inner)).symm
      refine congrArg Json.object (ascending.ext otherAscending fun member => ?_)
      constructor
      · intro listed
        have holding := found member listed
        rw [same member listed] at holding
        exact Assoc.mem_of_find? holding
      · intro listed
        have key : member.1 ∈ Assoc.keys members := known rfl (List.mem_map_of_mem listed)
        obtain ⟨own, ownListed, sameKey⟩ := List.mem_map.mp key
        have holding := found own ownListed
        rw [same own ownListed, sameKey, otherAscending.find?_of_mem listed] at holding
        have values : member = own := Prod.ext sameKey.symm (Option.some.inj holding)
        rwa [values]

theorem agrees_self {document : Json} (canonical : document.IsCanonical)
    (numbers : ∀ number, Occurs number document → number.equal number) :
    Agrees comparison document document := by
  induction document using nestedInduction with
  | null => exact .null
  | bool value => exact .bool value
  | string text => exact .string text
  | number value => exact .number (numbers value .number)
  | array items induction =>
      refine .array (Nat.le_refl _) (fun _ => Nat.le_refl _) fun index bound _ => ?_
      have listed := List.getElem_mem bound
      exact induction _ listed (canonical.items _ listed) fun number occurs =>
        numbers number (.array listed occurs)
  | object members induction =>
      have found : ∀ member ∈ members, Assoc.find? member.1 members = some member.2 :=
        fun member listed => canonical.ascending.find?_of_mem listed
      refine .object (fun key => (Assoc.find? key members).getD .null)
        (fun member listed => ?_) (fun member listed => ?_) fun _ => List.Subset.refl _
      · rw [found member listed, Option.getD_some]
      · rw [found member listed, Option.getD_some]
        exact induction member listed (canonical.values member listed) fun number occurs =>
          numbers number (.object listed occurs)

private theorem Agrees.equal_self {expected actual : Json}
    (agrees : Agrees comparison expected actual)
    {number : JsonNumber} (occurs : Occurs number expected) : number.equal number := by
  induction agrees with
  | null => cases occurs
  | bool value => cases occurs
  | string text => cases occurs
  | number equal =>
      cases occurs
      rcases JsonNumber.equal_cases equal with same | ⟨rfl, rfl⟩ | ⟨rfl, rfl⟩
      · rwa [same] at equal ⊢
      · rfl
      · rfl
  | array long whole each induction =>
      obtain ⟨item, listed, inner⟩ := occurs_array_iff.mp occurs
      obtain ⟨index, bound, rfl⟩ := List.getElem_of_mem listed
      exact induction index bound (Nat.lt_of_lt_of_le bound long) inner
  | object held found each known induction =>
      cases occurs with
      | object listed inner => exact induction _ listed inner

end Json

namespace JsonEquality

variable {R : Type} [Scalar R] [MatchResult.DecidesExactness R]

private theorem isExact_evaluateDocument_ordered_iff (expected actual : Json) (extra : Bool) :
    (JsonEquality.evaluateDocument ⟨expected, false, extra⟩ actual : MatchResult R).isExact = true ↔
      Json.Agrees (if extra then .inclusive else .strict) expected actual := by
  rw [← Json.differences_eq_nil_iff ""]
  simp only [evaluateDocument, Bool.false_and, Bool.false_eq_true, if_false, id]
  split
  · next none => exact iff_of_true MatchResult.DecidesExactness.isExact_exact none
  · next some =>
      rw [MatchResult.DecidesExactness.isExact_mismatch]
      exact iff_of_false (by decide) some

theorem isExact_evaluateDocument_sorted_iff (expected actual : Json) :
    (JsonEquality.evaluateDocument ⟨expected, true, false⟩ actual : MatchResult R).isExact = true ↔
      Json.Agrees .strict expected.sortItems actual.sortItems := by
  rw [← Json.differences_eq_nil_iff ""]
  simp only [evaluateDocument, Bool.and_false, Bool.false_and, Bool.false_eq_true, if_false,
    if_true]
  split
  · next none => exact iff_of_true MatchResult.DecidesExactness.isExact_exact none
  · next some =>
      rw [MatchResult.DecidesExactness.isExact_mismatch]
      exact iff_of_false (by decide) some

end JsonEquality

namespace Pattern

variable {R : Type} [Scalar R] [MatchResult.DecidesExactness R] {expected actual : Json}
  {text : String}

omit [MatchResult.DecidesExactness R] in
theorem evaluate_equalToJson (now : Calendar.Instant) (equality : JsonEquality)
    (parsed : Json.parse text = some actual) :
    (evaluate now (.equalToJson equality) (some text) : MatchResult R) =
      equality.evaluateDocument actual := by
  change (equality.evaluate text : MatchResult R) = _
  rw [JsonEquality.evaluate, parsed]

/-- Whatever matches a pattern also matches a more lenient one, but for one case: where zeros stand
in each other's place that differ in sign, their texts may bring the items of arrays into different
orders. -/
theorem lenience_keeps_exact (now : Calendar.Instant) (canonical : expected.IsCanonical)
    (parsed : Json.parse text = some actual) :
    let Exact (order extra : Bool) : Prop :=
      (evaluate now (.equalToJson ⟨expected, order, extra⟩) (some text) : MatchResult R).isExact
    (Exact false false → Exact false true) ∧ (Exact false true → Exact true true) ∧
      (Exact true false → Exact true true) ∧
      (Exact false false → Exact true false ∨ expected.Opposed actual) := by
  simp only [evaluate_equalToJson now _ parsed,
    JsonEquality.isExact_evaluateDocument_ordered_iff,
    JsonEquality.isExact_evaluateDocument_sorted_iff,
    JsonEquality.isExact_evaluateDocument_iff, Json.includes_iff_containedIn]
  refine ⟨Json.Agrees.inclusive, Json.Agrees.containedIn, fun agrees => ?_, fun agrees => ?_⟩
  · exact agrees.containedIn.reordered (Json.reordered_sortItems expected).symm
      (Json.reordered_sortItems actual).symm
  · refine or_iff_not_imp_right.mpr fun apart => ?_
    have same := agrees.eq_of_not_opposed canonical (Json.isCanonical_parse parsed) apart
    rw [← same]
    refine Json.agrees_self (canonical.reordered (Json.reordered_sortItems expected)) ?_
    exact fun number occurs =>
      agrees.equal_self (occurs.reordered (Json.reordered_sortItems expected).symm)

private theorem parse_negativeZero :
    Json.parse "[-0,-1]" = some (.array [.number (.double (-0)), .number (.integer (-1))]) := by
  have text : "[-0,-1]".toList = ['[', '-', '0', ',', '-', '1', ']'] := rfl
  rw [Json.parse, Json.parseWritten, text]
  rfl

theorem lenience_keeps_exact_negativeZero :
    let expected : Json := .array [.number (.double (-0)), .number (.integer (-1))]
    let Exact (order extra : Bool) : Prop :=
      (evaluate ⟨0, 0⟩ (.equalToJson ⟨expected, order, extra⟩) (some "[-0,-1]") :
        MatchResult Float).isExact
    expected.IsCanonical ∧ Json.parse "[-0,-1]" = some expected ∧ Exact false false ∧
      Exact false true ∧ Exact true true ∧ (Exact true false ∨ expected.Opposed expected) := by
  intro expected Exact
  have canonical : expected.IsCanonical := rfl
  obtain ⟨extra, both, -, order⟩ :=
    lenience_keeps_exact ⟨0, 0⟩ canonical parse_negativeZero (R := Float)
  have exact : Exact false false := by
    change (evaluate _ _ _ : MatchResult Float).isExact = true
    rw [evaluate_equalToJson _ _ parse_negativeZero,
      JsonEquality.isExact_evaluateDocument_ordered_iff, ← Json.differences_eq_nil_iff ""]
    decide +kernel
  exact ⟨canonical, parse_negativeZero, exact, extra exact, both (extra exact), order exact⟩

/-- A zero before minus one is found in a negative zero before minus one, unless both are sorted. -/
theorem exact_lost_when_sorted :
    let expected : Json := .array [.number (.double 0), .number (.integer (-1))]
    (evaluate ⟨0, 0⟩ (.equalToJson ⟨expected, false, false⟩) (some "[-0,-1]") :
        MatchResult Float).isExact ∧
      ¬ (evaluate ⟨0, 0⟩ (.equalToJson ⟨expected, true, false⟩) (some "[-0,-1]") :
        MatchResult Float).isExact := by
  intro expected
  have parsed := parse_negativeZero
  have zero : (Json.number (.double 0)).compact = "0.0" := by decide +kernel
  have negative : (Json.number (.double (-0))).compact = "-0.0" := by decide +kernel
  have one : (Json.number (.integer (-1))).compact = "-1" := by decide +kernel
  have first : expected.sortItems = .array [.number (.integer (-1)), .number (.double 0)] := by
    have after : ¬ "0.0" ≤ "-1" := by decide
    simp [expected, Json.sortItems, Json.sortEach, List.mergeSort,
      List.MergeSort.Internal.splitInTwo, zero, one, after]
  have second : (Json.array [.number (.double (-0)), .number (.integer (-1))]).sortItems =
      .array [.number (.double (-0)), .number (.integer (-1))] := by
    simp [Json.sortItems, Json.sortEach, List.mergeSort,
      List.MergeSort.Internal.splitInTwo, negative, one]
  rw [evaluate_equalToJson _ _ parsed, evaluate_equalToJson _ _ parsed,
    JsonEquality.isExact_evaluateDocument_ordered_iff,
    JsonEquality.isExact_evaluateDocument_sorted_iff, first, second,
    ← Json.differences_eq_nil_iff "", ← Json.differences_eq_nil_iff ""]
  decide +kernel

end Pattern

end ServiceStub
