import Mathlib.Data.List.Forall2

/-! Computations that may be refused: how a whole one comes out tells how its parts did. -/

namespace ServiceStub

variable {ε α β : Type} {error : ε}

theorem ok_bind (value : α) (next : α → Except ε β) : (.ok value >>= next) = next value := rfl

theorem bind_eq_ok {start : Except ε α} {next : α → Except ε β} {result : β} :
    (start >>= next) = .ok result ↔ ∃ value, start = .ok value ∧ next value = .ok result := by
  cases start with
  | ok value => simp [ok_bind]
  | error fault => simp [bind, Except.bind]

theorem bind_eq_error {start : Except ε α} {next : α → Except ε β} :
    (start >>= next) = .error error ↔
      start = .error error ∨ ∃ value, start = .ok value ∧ next value = .error error := by
  cases start with
  | ok value => simp [ok_bind]
  | error fault => simp [bind, Except.bind]

theorem mapM_eq_ok_iff {step : α → Except ε β} {items : List α}
    {results : List β} : items.mapM step = .ok results ↔
      List.Forall₂ (fun item result => step item = .ok result) items results := by
  induction items generalizing results with
  | nil =>
      rw [List.mapM_nil, List.forall₂_nil_left_iff]
      exact ⟨fun same => (Except.ok.inj same).symm, fun same => congrArg Except.ok same.symm⟩
  | cons item rest induction =>
      rw [List.mapM_cons, bind_eq_ok, List.forall₂_cons_left_iff]
      refine exists_congr fun first => ?_
      rw [bind_eq_ok]
      constructor
      · rintro ⟨given, others, othersGiven, same⟩
        exact ⟨others, given, induction.mp othersGiven, (Except.ok.inj same).symm⟩
      · rintro ⟨others, given, othersGiven, rfl⟩
        exact ⟨given, others, induction.mpr othersGiven, rfl⟩

theorem mem_of_mapM_eq_error {step : α → Except ε β} {items : List α}
    (rejected : items.mapM step = .error error) : ∃ item ∈ items, step item = .error error := by
  induction items with
  | nil => cases rejected
  | cons item rest induction =>
      rw [List.mapM_cons] at rejected
      rcases bind_eq_error.mp rejected with first | ⟨value, -, rejected⟩
      · exact ⟨item, List.mem_cons_self, first⟩
      · rcases bind_eq_error.mp rejected with later | ⟨others, -, rejected⟩
        · obtain ⟨other, listed, rejected⟩ := induction later
          exact ⟨other, List.mem_cons_of_mem item listed, rejected⟩
        · cases rejected

theorem forM_eq_ok_iff {step : α → Except ε Unit} {items : List α} :
    items.forM step = .ok () ↔ ∀ item ∈ items, step item = .ok () := by
  induction items with
  | nil => exact ⟨fun _ => nofun, fun _ => rfl⟩
  | cons item rest induction =>
      rw [List.forall_mem_cons, ← induction]
      change (step item >>= fun _ => rest.forM step) = .ok () ↔ _
      rw [bind_eq_ok]
      exact ⟨fun ⟨_, first, later⟩ => ⟨first, later⟩, fun ⟨first, later⟩ => ⟨(), first, later⟩⟩

end ServiceStub
