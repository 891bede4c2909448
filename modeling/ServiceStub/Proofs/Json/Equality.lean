import ServiceStub.Proofs.Json.Leniency

/-! Documents in canonical form are equal just if nothing tells them apart, place by place. -/

namespace ServiceStub

namespace Assoc

private theorem keys_eq_of_ascending {K V W : Type} [LT K] [KeyOrder K] {left : List (K × V)}
    {right : List (K × W)} (ascending : Ascending left) (otherAscending : Ascending right)
    (forth : keys left ⊆ keys right) (back : keys right ⊆ keys left) : keys left = keys right := by
  have perm : (keys left).Perm (keys right) :=
    (List.perm_ext_iff_of_nodup ascending.nodup otherAscending.nodup).mpr fun key =>
      ⟨fun known => forth known, fun known => back known⟩
  refine perm.eq_of_pairwise (fun first second _ _ before after => ?_)
    (List.pairwise_map.mpr ascending) (List.pairwise_map.mpr otherAscending)
  exact absurd (KeyOrder.trans before after) (KeyOrder.irrefl first)

end Assoc

namespace Json

private theorem equalItems_iff {left right : List Json} :
    equalItems left right ↔ List.Forall₂ (fun item other => item.equal other) left right := by
  induction left generalizing right with
  | nil => cases right <;> simp [equalItems]
  | cons item left induction =>
      cases right with
      | nil => simp [equalItems]
      | cons other right => rw [equalItems, Bool.and_eq_true, induction, List.forall₂_cons]

private theorem equalMembers_iff {left right : List (String × Json)} :
    equalMembers left right ↔ Assoc.keys left = Assoc.keys right ∧
      ∀ (index : Nat) (bound : index < left.length) (otherBound : index < right.length),
        left[index].2.equal right[index].2 := by
  induction left generalizing right with
  | nil => cases right <;> simp [equalMembers, Assoc.keys]
  | cons member left induction =>
      cases right with
      | nil => simp [equalMembers, Assoc.keys]
      | cons other right =>
          rw [equalMembers, Bool.and_eq_true, Bool.and_eq_true, beq_iff_eq, induction]
          simp only [Assoc.keys, List.map_cons, List.cons.injEq]
          constructor
          · rintro ⟨⟨sameKey, first⟩, keys, others⟩
            refine ⟨⟨sameKey, keys⟩, fun index bound otherBound => ?_⟩
            cases index with
            | zero => exact first
            | succ index =>
                exact others index (Nat.lt_of_succ_lt_succ bound)
                  (Nat.lt_of_succ_lt_succ otherBound)
          · rintro ⟨⟨sameKey, keys⟩, each⟩
            exact ⟨⟨sameKey, each 0 (Nat.succ_pos _) (Nat.succ_pos _)⟩, keys,
              fun index bound otherBound =>
                each (index + 1) (Nat.succ_lt_succ bound) (Nat.succ_lt_succ otherBound)⟩

private theorem agrees_of_equal {left right : Json} (canonical : right.IsCanonical)
    (equal : left.equal right) : Agrees .strict left right := by
  induction left using nestedInduction generalizing right with
  | null =>
      cases right with
      | null => exact .null
      | _ => cases equal
  | bool value =>
      cases right with
      | bool other => rw [eq_of_beq equal]; exact .bool other
      | _ => cases equal
  | number value =>
      cases right with
      | number other => exact .number (JsonNumber.equal_symm equal)
      | _ => cases equal
  | string text =>
      cases right with
      | string other => rw [eq_of_beq equal]; exact .string other
      | _ => cases equal
  | array items induction =>
      cases right with
      | array others =>
          have each := List.forall₂_iff_get.mp (equalItems_iff.mp equal)
          refine .array each.1.le (fun _ => each.1.ge) fun index bound otherBound => ?_
          exact induction _ (List.getElem_mem bound)
            (canonical.items _ (List.getElem_mem otherBound)) (each.2 index bound otherBound)
      | _ => cases equal
  | object members induction =>
      cases right with
      | object others =>
          obtain ⟨keys, each⟩ := equalMembers_iff.mp equal
          have found (index : Nat) (bound : index < members.length)
              (otherBound : index < others.length) :
              Assoc.find? members[index].1 others = some others[index].2 := by
            rw [getElem_keys keys bound otherBound]
            exact canonical.ascending.find?_of_mem (List.getElem_mem otherBound)
          refine .object (fun key => (Assoc.find? key others).getD .null) (fun member listed => ?_)
            (fun member listed => ?_) fun _ => keys ▸ List.Subset.refl _
          · obtain ⟨index, bound, rfl⟩ := List.getElem_of_mem listed
            rw [found index bound (length_keys keys ▸ bound), Option.getD_some]
          · obtain ⟨index, bound, rfl⟩ := List.getElem_of_mem listed
            have otherBound : index < others.length := length_keys keys ▸ bound
            rw [found index bound otherBound, Option.getD_some]
            exact induction _ listed (canonical.values _ (List.getElem_mem otherBound))
              (each index bound otherBound)
      | _ => cases equal

private theorem equal_of_agrees {left right : Json} (canonical : left.IsCanonical)
    (otherCanonical : right.IsCanonical) (agrees : Agrees .strict left right) :
    left.equal right := by
  induction agrees with
  | null => rfl
  | bool value => exact beq_self_eq_true value
  | string text => exact beq_self_eq_true text
  | number equal => exact JsonNumber.equal_symm equal
  | array long whole each induction =>
      refine equalItems_iff.mpr (List.forall₂_iff_get.mpr ⟨long.antisymm (whole rfl), ?_⟩)
      intro index bound otherBound
      exact induction index bound otherBound (canonical.items _ (List.getElem_mem bound))
        (otherCanonical.items _ (List.getElem_mem otherBound))
  | @object members others held found each known induction =>
      have keys : Assoc.keys members = Assoc.keys others := by
        refine Assoc.keys_eq_of_ascending canonical.ascending otherCanonical.ascending ?_
          (known rfl)
        refine List.forall_mem_map.mpr fun member listed => ?_
        exact Assoc.mem_keys_iff.mpr ⟨_, found member listed⟩
      refine equalMembers_iff.mpr ⟨keys, fun index bound otherBound => ?_⟩
      have listed := List.getElem_mem bound
      have otherListed := List.getElem_mem otherBound
      have holding : held members[index].1 = others[index].2 := by
        have isFound := found _ listed
        have own : Assoc.find? others[index].1 others = some others[index].2 :=
          otherCanonical.ascending.find?_of_mem otherListed
        rw [getElem_keys keys bound otherBound, own] at isFound
        rw [getElem_keys keys bound otherBound, Option.some.inj isFound]
      have equal := induction _ listed (canonical.values _ listed)
      rw [holding] at equal
      exact equal (otherCanonical.values _ otherListed)

theorem beq_iff_agrees {left right : Json} (canonical : left.IsCanonical)
    (otherCanonical : right.IsCanonical) : (left == right) = true ↔ Agrees .strict left right :=
  ⟨agrees_of_equal otherCanonical, equal_of_agrees canonical otherCanonical⟩

end Json

end ServiceStub
