import ServiceStub.Proofs.Json.Leniency
import ServiceStub.Proofs.Json.Printer

/-!
Where the order of items does not count.  Sorting brings reordered documents to one form, since
items that have one text are the same item, and containment looks for items in any place.
-/

namespace ServiceStub

namespace JsonNumber

variable {expected actual : JsonNumber}

private theorem IsFinite.of_equal (finite : actual.IsFinite) (equal : actual.equal expected) :
    expected.IsFinite := by
  rcases equal_cases equal with rfl | ⟨rfl, -⟩ | ⟨rfl, -⟩
  · exact finite
  · exact (by decide : (0 : Float).isFinite = true)
  · exact (by decide : (-0 : Float).isFinite = true)

end JsonNumber

namespace Json

theorem IsFinite.reordered {document other : Json} (finite : document.IsFinite)
    (alike : Reordered document other) : other.IsFinite :=
  fun number occurs => finite number (occurs.reordered alike.symm)

theorem Agrees.isFinite {comparison : Comparison} {expected actual : Json}
    (agrees : Agrees comparison expected actual) (finite : actual.IsFinite) :
    expected.IsFinite := by
  induction agrees with
  | null => exact finite
  | bool value => exact finite
  | string text => exact finite
  | number equal => exact isFinite_number ((finite _ .number).of_equal equal)
  | array long whole each induction =>
      refine isFinite_array fun item listed => ?_
      obtain ⟨index, bound, rfl⟩ := List.getElem_of_mem listed
      have otherBound := Nat.lt_of_lt_of_le bound long
      exact induction index bound otherBound (finite.items _ (List.getElem_mem otherBound))
  | object held found each known induction =>
      exact isFinite_object fun member listed =>
        induction member listed (finite.values _ (Assoc.mem_of_find? (found member listed)))

private theorem perm_map_of_places {α β : Type} {items others : List α} {image : α → β}
    (places : Fin items.length ≃ Fin others.length)
    (same : ∀ index, image (items.get index) = image (others.get (places index))) :
    (items.map image).Perm (others.map image) := by
  have spread (list : List α) : (list.map image : Multiset β) =
      Finset.univ.val.map fun index => image (list.get index) := by
    rw [Fin.univ_val_map, ← List.ofFn_getElem_eq_map]
    rfl
  rw [← Multiset.coe_eq_coe, spread, spread, ← Multiset.map_univ_val_equiv places, Multiset.map_map]
  exact Multiset.map_congr rfl fun index _ => same index

private theorem isFinite_of_mem_sorted {items : List Json} (finite : (array items).IsFinite)
    {item : Json} (member : item ∈ sorted items) : item.IsFinite := by
  obtain ⟨unsorted, listed, rfl⟩ := List.mem_map.mp ((perm_sorted items).mem_iff.mp member)
  exact (finite.items unsorted listed).reordered (reordered_sortItems unsorted)

private theorem sorted_eq {items others : List Json} (finite : (array items).IsFinite)
    (same : (items.map sortItems).Perm (others.map sortItems)) : sorted items = sorted others := by
  have perm : (sorted items).Perm (sorted others) :=
    (perm_sorted items).trans (same.trans (perm_sorted others).symm)
  refine perm.eq_of_pairwise (fun left right member otherMember before after => ?_)
    (pairwise_sorted items) (pairwise_sorted others)
  exact compact_inj (isFinite_of_mem_sorted finite member)
    (isFinite_of_mem_sorted finite (perm.mem_iff.mpr otherMember))
    (String.le_antisymm before after)

private theorem Reordered.sortItems_eq {document other : Json} (alike : Reordered document other)
    (finite : document.IsFinite) : document.sortItems = other.sortItems := by
  induction alike with
  | null => rfl
  | bool value => rfl
  | number value => rfl
  | string text => rfl
  | @array items others places each induction =>
      have same := perm_map_of_places places fun index =>
        induction index (finite.items _ (List.get_mem items index))
      rw [sortItems_array, sortItems_array, sorted_eq finite same]
  | @object members others keys each induction =>
      have lengths := length_keys keys
      rw [sortItems, sortItems, sortValues_eq, sortValues_eq]
      refine congrArg Json.object (List.ext_getElem (by simp [Assoc.mapValues, lengths]) ?_)
      intro index bound otherBound
      simp only [Assoc.mapValues, List.length_map] at bound otherBound
      simp only [Assoc.mapValues, List.getElem_map, getElem_keys keys bound otherBound,
        induction index bound otherBound (finite.values _ (List.getElem_mem bound))]

end Json

namespace Pattern

variable {R : Type} [Scalar R] [MatchResult.DecidesExactness R]
  {expected otherExpected actual otherActual : Json} {text otherText : String}

private theorem isExact_lenient_of_reordered (now : Calendar.Instant)
    (expectedAlike : expected.Reordered otherExpected) (actualAlike : actual.Reordered otherActual)
    (parsed : Json.parse text = some actual) (otherParsed : Json.parse otherText = some otherActual)
    (exact : (evaluate now (.equalToJson ⟨expected, true, true⟩) (some text) :
      MatchResult R).isExact) :
    (evaluate now (.equalToJson ⟨otherExpected, true, true⟩) (some otherText) :
      MatchResult R).isExact :=
  (isExact_lenient_iff now otherParsed).mpr
    (((isExact_lenient_iff now parsed).mp exact).reordered expectedAlike actualAlike)

private theorem isExact_sorted_iff (now : Calendar.Instant)
    (parsed : Json.parse text = some actual) :
    (evaluate now (.equalToJson ⟨expected, true, false⟩) (some text) : MatchResult R).isExact ↔
      Json.Agrees .strict expected.sortItems actual.sortItems := by
  rw [evaluate_equalToJson now _ parsed]
  exact JsonEquality.isExact_evaluateDocument_sorted_iff expected actual

private theorem isExact_sorted_of_reordered (now : Calendar.Instant)
    (expectedAlike : expected.Reordered otherExpected) (actualAlike : actual.Reordered otherActual)
    (parsed : Json.parse text = some actual) (otherParsed : Json.parse otherText = some otherActual)
    (exact : (evaluate now (.equalToJson ⟨expected, true, false⟩) (some text) :
      MatchResult R).isExact) :
    (evaluate now (.equalToJson ⟨otherExpected, true, false⟩) (some otherText) :
      MatchResult R).isExact := by
  rw [isExact_sorted_iff now parsed] at exact
  rw [isExact_sorted_iff now otherParsed]
  have finite := Json.isFinite_parse parsed
  have sortedFinite : expected.sortItems.IsFinite :=
    exact.isFinite (finite.reordered (Json.reordered_sortItems actual))
  have expectedFinite : expected.IsFinite :=
    sortedFinite.reordered (Json.reordered_sortItems expected).symm
  rwa [← expectedAlike.sortItems_eq expectedFinite, ← actualAlike.sortItems_eq finite]

/-- If the order of items does not count, then reordered documents match like those they were
reordered from. -/
theorem unordered_exact_iff_of_reordered (now : Calendar.Instant) (extra : Bool)
    (expectedAlike : expected.Reordered otherExpected) (actualAlike : actual.Reordered otherActual)
    (parsed : Json.parse text = some actual)
    (otherParsed : Json.parse otherText = some otherActual) :
    (evaluate now (.equalToJson ⟨expected, true, extra⟩) (some text) : MatchResult R).isExact ↔
      (evaluate now (.equalToJson ⟨otherExpected, true, extra⟩) (some otherText) :
        MatchResult R).isExact := by
  cases extra with
  | true =>
      exact ⟨isExact_lenient_of_reordered now expectedAlike actualAlike parsed otherParsed,
        isExact_lenient_of_reordered now expectedAlike.symm actualAlike.symm otherParsed parsed⟩
  | false =>
      exact ⟨isExact_sorted_of_reordered now expectedAlike actualAlike parsed otherParsed,
        isExact_sorted_of_reordered now expectedAlike.symm actualAlike.symm otherParsed parsed⟩

theorem unordered_exact_iff_nested :
    let document : Json := .array [.array [.ofInt 1, .ofInt 2], .null]
    let other : Json := .array [.null, .array [.ofInt 2, .ofInt 1]]
    let Exact (extra : Bool) (text : String) : Prop :=
      (evaluate ⟨0, 0⟩ (.equalToJson ⟨document, true, extra⟩) (some text) :
        MatchResult Float).isExact
    document.Reordered other ∧ Json.parse "[[1,2],null]" = some document ∧
      Json.parse "[null,[2,1]]" = some other ∧
      ∀ extra, Exact extra "[[1,2],null]" ∧ Exact extra "[null,[2,1]]" := by
  intro document other Exact
  have inner : (Json.array [.ofInt 1, .ofInt 2]).Reordered (.array [.ofInt 2, .ofInt 1]) :=
    .array (Equiv.swap (0 : Fin 2) 1) (Fin.forall_fin_two.mpr ⟨.number _, .number _⟩)
  have alike : document.Reordered other :=
    .array (Equiv.swap (0 : Fin 2) 1) (Fin.forall_fin_two.mpr ⟨inner, .null⟩)
  have parsed : Json.parse "[[1,2],null]" = some document := by cbv
  have otherParsed : Json.parse "[null,[2,1]]" = some other := by cbv
  have numbers : ∀ number, Json.Occurs number document → number.equal number := by
    intro number occurs
    simp only [document, Json.ofInt, Json.occurs_array_iff, Json.occurs_number_iff,
      List.mem_cons, List.not_mem_nil, or_false, exists_eq_or_imp, exists_eq_left] at occurs
    rcases occurs with (rfl | rfl) | ⟨⟨⟩⟩ <;> rfl
  have sorted := Json.reordered_sortItems document
  have agrees : Json.Agrees .strict document.sortItems document.sortItems :=
    Json.agrees_self ((Json.isCanonical_parse parsed).reordered sorted) fun number occurs =>
      numbers number (occurs.reordered sorted.symm)
  have exact (extra : Bool) : Exact extra "[[1,2],null]" := by
    cases extra with
    | false => exact (isExact_sorted_iff ⟨0, 0⟩ parsed).mpr agrees
    | true =>
        exact (isExact_lenient_iff ⟨0, 0⟩ parsed).mpr
          (agrees.containedIn.reordered sorted.symm sorted.symm)
  exact ⟨alike, parsed, otherParsed, fun extra => ⟨exact extra,
    (unordered_exact_iff_of_reordered ⟨0, 0⟩ extra (.refl document) alike parsed
      otherParsed).mp (exact extra)⟩⟩

end Pattern

end ServiceStub
