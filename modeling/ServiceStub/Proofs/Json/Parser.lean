import ServiceStub.Json.Parser

/-! The text of a string is longer than the string, so that no text is the document it holds. -/

namespace ServiceStub.Json

private theorem length_codeUnit? {text rest : List Char} {unit : Nat}
    (read : codeUnit? text = some (unit, rest)) : rest.length + 4 = text.length := by
  unfold codeUnit? at read
  split at read
  · obtain ⟨_, -, same⟩ := Option.map_eq_some_iff.mp read
    cases same
    rfl
  · cases read

private theorem length_unicodeEscape? {text rest : List Char} {c : Char}
    (read : unicodeEscape? text = some (c, rest)) : rest.length < text.length := by
  obtain ⟨⟨unit, following⟩, unitRead, read⟩ := Option.bind_eq_some_iff.mp read
  have first := length_codeUnit? unitRead
  dsimp only at read
  split at read
  · cases read
  · split at read
    · split at read
      · obtain ⟨⟨low, last⟩, lowRead, read⟩ := Option.bind_eq_some_iff.mp read
        have second := length_codeUnit? lowRead
        dsimp only at read
        split at read
        · obtain ⟨-, rfl⟩ := Prod.mk.inj (Option.some.inj read)
          simp only [List.length_cons] at first
          omega
        · cases read
      · cases read
    · obtain ⟨-, rfl⟩ := Prod.mk.inj (Option.some.inj read)
      omega

private theorem length_escape? {text rest : List Char} {c : Char}
    (read : escape? text = some (c, rest)) :
    rest.length < text.length := by
  unfold escape? at read
  split at read
  case h_9 following =>
    have shorter := length_unicodeEscape? read
    rw [List.length_cons]
    omega
  all_goals
    cases read
    try exact Nat.lt_succ_self _

/-- Each character of a string takes at least one of the text, and the last quote one more. -/
theorem length_stringTail {fuel : Nat} {collected characters text rest : List Char}
    (read : stringTail fuel collected text = some (characters, rest)) :
    characters.length + rest.length < collected.length + text.length := by
  fun_induction stringTail fuel collected text with
  | case1 | case2 | case5 | case6 => cases read
  | case3 =>
      cases read
      rw [List.length_cons]
      omega
  | case4 collected fuel escape c following escaped induction =>
      have shorter := length_escape? escaped
      have later := induction read
      simp only [List.length_cons] at later ⊢
      omega
  | case7 collected fuel c following notQuote notEscape printable induction =>
      have later := induction read
      simp only [List.length_cons] at later ⊢
      omega

private theorem length_readString {fuel : Nat} {text rest : List Char} {found : String}
    (read : readString fuel text = some (found, rest)) :
    found.toList.length < text.length := by
  obtain ⟨⟨characters, _⟩, tail, same⟩ := Option.map_eq_some_iff.mp read
  obtain ⟨rfl, -⟩ := Prod.mk.inj same
  have shorter := length_stringTail tail
  simp only [String.toList_ofList, List.length_reverse, List.length_nil] at shorter ⊢
  omega

private theorem length_skipSpace_le (text : List Char) : (skipSpace text).length ≤ text.length :=
  (List.dropWhile_suffix _).length_le

private theorem length_of_readValue {fuel depth : Nat} {text rest : List Char} {found : String}
    (read : readValue fuel depth text = some (.string found, rest)) :
    found.toList.length < text.length := by
  have skipped := length_skipSpace_le text
  unfold readValue at read
  split at read
  · cases read
  · split at read
    case h_1 | h_2 | h_3 => cases read
    case h_4 following starts =>
      obtain ⟨⟨inner, _⟩, stringRead, same⟩ := Option.map_eq_some_iff.mp read
      cases same
      have shorter := length_readString stringRead
      rw [starts, List.length_cons] at skipped
      omega
    case h_5 | h_6 =>
      split at read
      · cases read
      · split at read
        · cases read
        · obtain ⟨_, -, same⟩ := Option.map_eq_some_iff.mp read
          cases same
    case h_7 =>
      obtain ⟨_, -, same⟩ := Option.map_eq_some_iff.mp read
      cases same

private theorem canonical_eq_string_iff {document : Json} {text : String} :
    document.canonical = .string text ↔ document = .string text := by
  cases document <;> simp [canonical]

theorem parse_ne_string (text : String) : parse text ≠ some (.string text) := by
  intro parsed
  obtain ⟨document, written, same⟩ := Option.map_eq_some_iff.mp parsed
  rw [canonical_eq_string_iff] at same
  subst same
  unfold parseWritten at written
  dsimp only at written
  split at written
  · next value rest read =>
      split at written
      · cases written
        exact Nat.lt_irrefl _ (length_of_readValue read)
      · cases written
  · cases written

end ServiceStub.Json
