import ServiceStub.Proofs.Json.Canonical
import ServiceStub.Proofs.Json.Containment
import ServiceStub.Proofs.Pattern.MultiValue

/-!
Documents whose arrays stand in different orders.  What is contained in a document is contained in
it in any order, and sorting brings documents that differ in nothing else to one form.
-/

namespace ServiceStub

open MultiValuePattern (placesOf get_placesOf)

namespace Json

/-- The same document but for the order in which the items of arrays stand, at any depth. -/
inductive Reordered : Json → Json → Prop where
  | null : Reordered .null .null
  | bool (value : Bool) : Reordered (.bool value) (.bool value)
  | number (value : JsonNumber) : Reordered (.number value) (.number value)
  | string (text : String) : Reordered (.string text) (.string text)
  | array {items others : List Json} (places : Fin items.length ≃ Fin others.length)
      (each : ∀ index, Reordered (items.get index) (others.get (places index))) :
      Reordered (.array items) (.array others)
  | object {members others : List (String × Json)} (keys : Assoc.keys members = Assoc.keys others)
      (each : ∀ (index : Nat) (bound : index < members.length) (otherBound : index < others.length),
        Reordered members[index].2 others[index].2) :
      Reordered (.object members) (.object others)

theorem getElem_keys {members others : List (String × Json)}
    (keys : Assoc.keys members = Assoc.keys others) {index : Nat} (bound : index < members.length)
    (otherBound : index < others.length) : members[index].1 = others[index].1 := by
  have same := congrArg (·[index]?) keys
  simpa [Assoc.keys, bound, otherBound] using same

theorem length_keys {members others : List (String × Json)}
    (keys : Assoc.keys members = Assoc.keys others) : members.length = others.length := by
  simpa [Assoc.keys] using congrArg List.length keys

theorem Reordered.refl (document : Json) : Reordered document document := by
  induction document using nestedInduction with
  | null => exact .null
  | bool value => exact .bool value
  | number value => exact .number value
  | string text => exact .string text
  | array items induction =>
      exact .array (Equiv.refl _) fun index => induction _ (List.get_mem items index)
  | object members induction =>
      exact .object rfl fun index bound _ => induction _ (List.getElem_mem bound)

theorem Reordered.symm {document other : Json} (alike : Reordered document other) :
    Reordered other document := by
  induction alike with
  | null => exact .null
  | bool value => exact .bool value
  | string text => exact .string text
  | number value => exact .number value
  | array places each induction =>
      refine .array places.symm fun index => ?_
      have inner := induction (places.symm index)
      simpa using inner
  | object keys each induction =>
      exact .object keys.symm fun index otherBound bound => induction index bound otherBound

theorem Occurs.reordered {document other : Json} {number : JsonNumber}
    (occurs : Occurs number document) (alike : Reordered document other) : Occurs number other := by
  induction alike with
  | null => exact occurs
  | bool value => exact occurs
  | string text => exact occurs
  | number value => exact occurs
  | array places each induction =>
      obtain ⟨item, listed, inner⟩ := occurs_array_iff.mp occurs
      obtain ⟨index, bound, rfl⟩ := List.getElem_of_mem listed
      exact .array (List.getElem_mem _) (induction ⟨index, bound⟩ inner)
  | @object members others keys each induction =>
      cases occurs with
      | object listed inner =>
          obtain ⟨index, bound, same⟩ := List.getElem_of_mem listed
          have otherBound : index < others.length := by rwa [← length_keys keys]
          refine .object (List.getElem_mem otherBound) (induction index bound otherBound ?_)
          rwa [same]

theorem IsCanonical.reordered {document other : Json} (canonical : document.IsCanonical)
    (alike : Reordered document other) : other.IsCanonical := by
  induction alike with
  | null => rfl
  | bool value => rfl
  | string text => rfl
  | number value => rfl
  | array places each induction =>
      refine isCanonical_array fun item listed => ?_
      obtain ⟨index, bound, rfl⟩ := List.getElem_of_mem listed
      have inner := induction (places.symm ⟨index, bound⟩)
        (canonical.items _ (List.getElem_mem _))
      simpa using inner
  | @object members others keys each induction =>
      have ascending : Assoc.Ascending others := by
        have pairs := List.pairwise_map.mpr canonical.ascending
        change (Assoc.keys members).Pairwise _ at pairs
        rw [keys] at pairs
        exact List.pairwise_map.mp pairs
      refine isCanonical_object ascending fun member listed => ?_
      obtain ⟨index, otherBound, rfl⟩ := List.getElem_of_mem listed
      have bound : index < members.length := by rwa [length_keys keys]
      exact induction index bound otherBound (canonical.values _ (List.getElem_mem bound))

private theorem find?_reordered {members others : List (String × Json)} {key : String}
    {value : Json} (keys : Assoc.keys members = Assoc.keys others)
    (each : ∀ (index : Nat) (bound : index < members.length) (otherBound : index < others.length),
      Reordered members[index].2 others[index].2)
    (found : Assoc.find? key members = some value) :
    ∃ other, Assoc.find? key others = some other ∧ Reordered value other := by
  induction members generalizing others with
  | nil => cases found
  | cons member rest induction =>
      cases others with
      | nil => cases keys
      | cons other others =>
          obtain ⟨first, restKeys⟩ := List.cons.inj keys
          rw [Assoc.find?] at found ⊢
          split at found
          · next same =>
              cases found
              rw [if_pos (same.trans first)]
              exact ⟨other.2, rfl, each 0 (Nat.zero_lt_succ _) (Nat.zero_lt_succ _)⟩
          · next different =>
              rw [if_neg fun same => different (same.trans first.symm)]
              exact induction restKeys (fun index bound otherBound =>
                each (index + 1) (Nat.succ_lt_succ bound) (Nat.succ_lt_succ otherBound)) found

variable {agree : JsonNumber → JsonNumber → Prop} {expected actual : Json}

theorem ContainedIn.reordered (contained : ContainedIn agree expected actual)
    {otherExpected otherActual : Json} (expectedAlike : Reordered expected otherExpected)
    (actualAlike : Reordered actual otherActual) :
    ContainedIn agree otherExpected otherActual := by
  induction contained generalizing otherExpected otherActual with
  | null =>
      cases expectedAlike
      cases actualAlike
      exact .null
  | bool value =>
      cases expectedAlike
      cases actualAlike
      exact .bool value
  | string text =>
      cases expectedAlike
      cases actualAlike
      exact .string text
  | number agreed =>
      cases expectedAlike
      cases actualAlike
      exact .number agreed
  | array assigned contained induction =>
      cases expectedAlike with
      | array places each =>
          cases actualAlike with
          | array otherPlaces otherEach =>
              refine .array ((places.symm.toEmbedding.trans assigned).trans
                otherPlaces.toEmbedding) fun index => ?_
              have alike := each (places.symm index)
              simp only [Equiv.apply_symm_apply] at alike
              exact induction (places.symm index) alike (otherEach (assigned (places.symm index)))
  | @object members actualMembers held found contained induction =>
      cases expectedAlike with
      | @object _ others keys each =>
          cases actualAlike with
          | @object _ otherMembers otherKeys otherEach =>
              have holder : ∀ member ∈ others,
                  ∃ value, Assoc.find? member.1 otherMembers = some value ∧
                    ContainedIn agree member.2 value := by
                intro member listed
                obtain ⟨index, otherBound, rfl⟩ := List.getElem_of_mem listed
                have bound : index < members.length := by rwa [length_keys keys]
                have member := List.getElem_mem bound
                obtain ⟨value, holds, alike⟩ :=
                  find?_reordered otherKeys otherEach (found members[index] member)
                rw [getElem_keys keys bound otherBound] at holds
                exact ⟨value, holds,
                  induction members[index] member (each index bound otherBound) alike⟩
              refine .object (fun key => (Assoc.find? key otherMembers).getD .null)
                (fun member listed => ?_) fun member listed => ?_
              · obtain ⟨value, holds, -⟩ := holder member listed
                rw [holds, Option.getD_some]
              · obtain ⟨value, holds, contained⟩ := holder member listed
                rw [holds, Option.getD_some]
                exact contained

private theorem sortEach_eq (items : List Json) : sortEach items = items.map sortItems := by
  induction items with
  | nil => rfl
  | cons item rest induction => rw [sortEach, induction, List.map_cons]

theorem sortValues_eq (members : List (String × Json)) :
    sortValues members = Assoc.mapValues sortItems members := by
  induction members with
  | nil => rfl
  | cons member rest induction =>
      rw [sortValues, induction, Assoc.mapValues, Assoc.mapValues, List.map_cons]

def sorted (items : List Json) : List Json :=
  (items.map sortItems).mergeSort fun left right => left.compact ≤ right.compact

theorem sortItems_array (items : List Json) : (array items).sortItems = .array (sorted items) := by
  rw [sortItems, sortEach_eq, sorted]

theorem perm_sorted (items : List Json) : (sorted items).Perm (items.map sortItems) :=
  List.mergeSort_perm ..

theorem pairwise_sorted (items : List Json) :
    (sorted items).Pairwise fun left right => left.compact ≤ right.compact := by
  have pairwise := @List.pairwise_mergeSort Json
    (fun left right => decide (left.compact ≤ right.compact))
    (fun _ _ _ first second => decide_eq_true
      (String.le_trans (of_decide_eq_true first) (of_decide_eq_true second)))
    (fun left right => by simpa using String.le_total left.compact right.compact)
    (items.map sortItems)
  simp only [decide_eq_true_eq] at pairwise
  exact pairwise

theorem reordered_sortItems (document : Json) : Reordered document document.sortItems := by
  induction document using nestedInduction with
  | null => exact .null
  | bool value => exact .bool value
  | number value => exact .number value
  | string text => exact .string text
  | array items induction =>
      let places := placesOf (perm_sorted items).symm
      have lengths : items.length = (items.map sortItems).length := (List.length_map ..).symm
      rw [sortItems_array]
      refine .array ((finCongr lengths).trans places) fun index => ?_
      have place : (sorted items)[places (finCongr lengths index)] = items[index].sortItems :=
        (get_placesOf (perm_sorted items).symm _).trans (List.getElem_map sortItems)
      change Reordered items[index] (sorted items)[places (finCongr lengths index)]
      rw [place]
      exact induction items[index] (List.getElem_mem _)
  | object members induction =>
      rw [sortItems, sortValues_eq]
      have keys : Assoc.keys members = Assoc.keys (Assoc.mapValues sortItems members) := by
        simp [Assoc.keys, Assoc.mapValues]
      refine .object keys fun index bound _ => ?_
      simpa [Assoc.mapValues] using induction members[index] (List.getElem_mem bound)

end Json

end ServiceStub
