import ServiceStub.Json.Parser
import ServiceStub.Proofs.Decimal.Range
import ServiceStub.Proofs.Json.Canonical
import ServiceStub.Proofs.Json.Containment

/-! The numbers of a document are finite: a text with a number out of range holds no document. -/

namespace ServiceStub

namespace JsonNumber

def IsFinite : JsonNumber → Prop
  | .integer _ => True
  | .double value => value.isFinite

open Double (Under)

private theorem isFinite_shrink {bound : Int} {fuel exponent : Nat} {value : Float}
    (under : Under bound value) (least : -1074 ≤ bound) (most : bound + fuel ≤ 971) :
    (scale.shrink fuel value exponent).isFinite = true := by
  induction fuel generalizing bound value exponent with
  | zero => exact under.isFinite
  | succ fuel induction =>
      rw [scale.shrink]
      split
      · next small =>
          exact (under.div (Double.large_powerOfTen small) least (by omega)).isFinite
      · split
        · exact under.isFinite
        · exact induction (under.div (Double.large_powerOfTen le_rfl) least (by omega)) (by omega)
            (by omega)

variable {negative : Bool} {significand : Nat} {number : JsonNumber} {text rest : List Char}

private theorem isFinite_sign {value : Float} (finite : value.isFinite = true) :
    (if negative then -value else value).isFinite = true := by
  split
  · exact Double.isFinite_neg finite
  · exact finite

private theorem isFinite_scale {exponent : Int} {value : Float} (word : significand ≤ greatestWord)
    (scaled : scale negative significand exponent = some value) : value.isFinite = true := by
  simp only [scale] at scaled
  split at scaled
  · split at scaled
    · cases scaled
      exact isFinite_sign (by decide)
    · split at scaled
      · cases scaled
      · split at scaled
        · next finite =>
            cases scaled
            exact isFinite_sign finite
        · cases scaled
  · cases scaled
    exact isFinite_sign (isFinite_shrink (Double.under_ofNat word) (by decide) (by decide))

private theorem collect_le {taken : Nat} (word : significand ≤ greatestWord) :
    (collect significand taken text).1 ≤ greatestWord := by
  fun_induction collect significand taken text with
  | case1 => exact word
  | case2 => exact word
  | case3 significand taken digit rest isDigit next fits induction =>
      exact induction (Nat.le_of_not_lt fits)
  | case4 => exact word

private theorem isFinite_finishExponent {exponent : Int} (word : significand ≤ greatestWord)
    (read : finishExponent negative significand exponent text = some (number, rest)) :
    number.IsFinite := by
  unfold finishExponent at read
  dsimp only at read
  obtain ⟨_, -, read⟩ := Option.bind_eq_some_iff.mp read
  -- with either sign of the exponent, or none
  split at read
  all_goals
    split at read
    · split at read
      · cases read
      · cases read
        exact isFinite_sign (by decide : (0.0 : Float).isFinite = true)
    · obtain ⟨value, scaled, same⟩ := Option.bind_eq_some_iff.mp read
      cases same
      exact isFinite_scale word scaled

private theorem isFinite_finishFraction {exponent : Int} (word : significand ≤ greatestWord)
    (read : finishFraction negative significand exponent text = some (number, rest)) :
    number.IsFinite := by
  unfold finishFraction at read
  split at read
  · exact isFinite_finishExponent word read
  · exact isFinite_finishExponent word read
  · obtain ⟨value, scaled, same⟩ := Option.bind_eq_some_iff.mp read
    cases same
    exact isFinite_scale word scaled

private theorem isFinite_finishInteger {dropped : Nat} (word : significand ≤ greatestWord)
    (read : finishInteger negative significand dropped text = some (number, rest)) :
    number.IsFinite := by
  unfold finishInteger at read
  split at read
  · obtain ⟨_, -, read⟩ := Option.bind_eq_some_iff.mp read
    exact isFinite_finishFraction (collect_le word) read
  · exact isFinite_finishExponent word read
  · exact isFinite_finishExponent word read
  · split at read
    · exact isFinite_finishFraction word read
    · split at read
      · cases read
        trivial
      · split at read
        · cases read
          exact Double.isFinite_neg (Double.under_ofNat word).isFinite
        · cases read
          trivial

private theorem isFinite_read (read : JsonNumber.read text = some (number, rest)) :
    number.IsFinite := by
  unfold JsonNumber.read at read
  dsimp only at read
  split at read
  · split at read
    · split at read
      · cases read
      · exact isFinite_finishInteger (Nat.zero_le _) read
    · exact isFinite_finishInteger (Nat.zero_le _) read
  · split at read
    · exact isFinite_finishInteger (collect_le (Nat.zero_le _)) read
    · cases read
  · cases read

end JsonNumber

namespace Json

def IsFinite (document : Json) : Prop := ∀ number, Occurs number document → number.IsFinite

theorem IsFinite.items {items : List Json} (finite : (array items).IsFinite) :
    ∀ item ∈ items, item.IsFinite :=
  fun _ member number occurs => finite number (.array member occurs)

theorem IsFinite.values {members : List (String × Json)} (finite : (object members).IsFinite) :
    ∀ member ∈ members, member.2.IsFinite :=
  fun _ listed number occurs => finite number (.object listed occurs)

theorem isFinite_number {number : JsonNumber} (finite : number.IsFinite) :
    (Json.number number).IsFinite := by
  rintro _ ⟨⟩
  exact finite

theorem isFinite_array {items : List Json} (each : ∀ item ∈ items, item.IsFinite) :
    (array items).IsFinite := by
  rintro number (_ | ⟨listed, occurs⟩)
  exact each _ listed number occurs

theorem isFinite_object {members : List (String × Json)}
    (each : ∀ member ∈ members, member.2.IsFinite) : (object members).IsFinite := by
  rintro number (_ | _ | ⟨listed, occurs⟩)
  exact each _ listed number occurs

mutual

private theorem isFinite_readValue {fuel depth : Nat} {text rest : List Char} {document : Json}
    (read : readValue fuel depth text = some (document, rest)) : document.IsFinite := by
  cases fuel with
  | zero => cases read
  | succ fuel =>
      unfold readValue at read
      split at read
      case h_1 | h_2 | h_3 =>
        cases read
        exact fun _ occurs => nomatch occurs
      case h_4 =>
        obtain ⟨_, -, same⟩ := Option.map_eq_some_iff.mp read
        cases same
        exact fun _ occurs => nomatch occurs
      case h_5 =>
        split at read
        · cases read
        · split at read
          · cases read
            exact isFinite_array nofun
          · obtain ⟨_, itemsRead, same⟩ := Option.map_eq_some_iff.mp read
            cases same
            exact isFinite_array (isFinite_readItems itemsRead)
      case h_6 =>
        split at read
        · cases read
        · split at read
          · cases read
            exact isFinite_object nofun
          · obtain ⟨_, membersRead, same⟩ := Option.map_eq_some_iff.mp read
            cases same
            exact isFinite_object (isFinite_readMembers membersRead)
      case h_7 =>
        obtain ⟨_, numberRead, same⟩ := Option.map_eq_some_iff.mp read
        cases same
        exact isFinite_number (JsonNumber.isFinite_read numberRead)

private theorem isFinite_readItems {fuel depth : Nat} {text rest : List Char} {items : List Json}
    (read : readItems fuel depth text = some (items, rest)) :
    ∀ item ∈ items, item.IsFinite := by
  cases fuel with
  | zero => cases read
  | succ fuel =>
      unfold readItems at read
      obtain ⟨⟨item, following⟩, itemRead, read⟩ := Option.bind_eq_some_iff.mp read
      have first := isFinite_readValue itemRead
      dsimp only at read
      split at read
      · obtain ⟨_, itemsRead, same⟩ := Option.bind_eq_some_iff.mp read
        cases same
        exact List.forall_mem_cons.mpr ⟨first, isFinite_readItems itemsRead⟩
      · cases read
        exact List.forall_mem_singleton.mpr first
      · cases read

private theorem isFinite_readMembers {fuel depth : Nat} {text rest : List Char}
    {members : List (String × Json)} (read : readMembers fuel depth text = some (members, rest)) :
    ∀ member ∈ members, member.2.IsFinite := by
  cases fuel with
  | zero => cases read
  | succ fuel =>
      unfold readMembers at read
      split at read
      · obtain ⟨⟨key, following⟩, -, read⟩ := Option.bind_eq_some_iff.mp read
        dsimp only at read
        split at read
        · obtain ⟨⟨value, after⟩, valueRead, read⟩ := Option.bind_eq_some_iff.mp read
          have first := isFinite_readValue valueRead
          dsimp only at read
          split at read
          · obtain ⟨_, membersRead, same⟩ := Option.bind_eq_some_iff.mp read
            cases same
            exact List.forall_mem_cons.mpr ⟨first, isFinite_readMembers membersRead⟩
          · cases read
            exact List.forall_mem_singleton.mpr first
          · cases read
        · cases read
      · cases read

end

theorem IsFinite.canonical {document : Json} (finite : document.IsFinite) :
    document.canonical.IsFinite := by
  induction document using nestedInduction with
  | null => exact finite
  | bool value => exact finite
  | number value => exact finite
  | string text => exact finite
  | array items induction =>
      rw [canonical_array]
      exact isFinite_array (List.forall_mem_map.mpr fun item listed =>
        induction item listed (finite.items item listed))
  | object members induction =>
      rw [canonical_object]
      refine isFinite_object fun member listed => ?_
      obtain ⟨written, writtenListed, rfl⟩ := exists_of_mem_canonical listed
      exact induction written writtenListed (finite.values written writtenListed)

theorem isFinite_parse {text : String} {document : Json} (parsed : parse text = some document) :
    document.IsFinite := by
  obtain ⟨written, writtenParsed, rfl⟩ := Option.map_eq_some_iff.mp parsed
  unfold parseWritten at writtenParsed
  dsimp only at writtenParsed
  split at writtenParsed
  · next value rest read =>
      split at writtenParsed
      · cases writtenParsed
        exact (isFinite_readValue read).canonical
      · cases writtenParsed
  · cases writtenParsed

end Json

end ServiceStub
