import ServiceStub.Json.Printer
import ServiceStub.Proofs.Decimal.Text
import ServiceStub.Proofs.Json.Finite

/-!
The compact text of a document tells the document.  At the front of a text that goes on with no
character of numbers there is the text of one document only.
-/

namespace ServiceStub

open Decimal (isNumeric IsNumeral)

namespace Json

private theorem codeUnit?_control : ∀ code < 32, ∀ rest,
    codeUnit? ('0' :: '0' :: hexDigit (code / 16) :: hexDigit (code % 16) :: rest) =
      some (code, rest) := by
  have digits : ∀ code < 32,
      Text.hexadecimal? ['0', '0', hexDigit (code / 16), hexDigit (code % 16)] = some code := by
    decide
  intro code control rest
  rw [codeUnit?, digits code control, Option.map_some]

private theorem escapeChar_append (c : Char) (rest : List Char) :
    (escapeChar c ++ rest = c :: rest ∧ c ≠ '"' ∧ c ≠ '\\' ∧ ¬ c.toNat < 0x20) ∨
      ∃ escape, escapeChar c ++ rest = '\\' :: escape ∧ escape? escape = some (c, rest) := by
  fun_cases escapeChar c with
  | case1 same | case2 _ same | case3 _ _ same | case4 _ _ _ same | case5 _ _ _ _ same
  | case6 _ _ _ _ _ same | case7 _ _ _ _ _ _ same =>
      rw [eq_of_beq same]
      exact .inr ⟨_, rfl, rfl⟩
  | case8 _ _ _ _ _ _ _ control =>
      have notLow : (0xDC00 ≤ c.toNat && c.toNat ≤ 0xDFFF) = false := by simp; omega
      have notHigh : (0xD800 ≤ c.toNat && c.toNat ≤ 0xDBFF) = false := by simp; omega
      refine .inr ⟨_, rfl, ?_⟩
      change unicodeEscape? ('0' :: '0' :: hexDigit (c.toNat / 16) :: hexDigit (c.toNat % 16) ::
        rest) = some (c, rest)
      rw [unicodeEscape?, codeUnit?_control _ control, Option.bind_eq_bind, Option.bind_some]
      simp only [notLow, notHigh, Bool.false_eq_true, if_false, Char.ofNat_toNat]
  | case9 notQuote notEscape _ _ _ _ _ printable =>
      exact .inl ⟨rfl, by simpa using notQuote, by simpa using notEscape, printable⟩

/-- What is written between quotes is read back, whatever follows. -/
theorem stringTail_flatMap (text : List Char) {fuel : Nat} (enough : text.length < fuel)
    (collected rest : List Char) :
    stringTail fuel collected (text.flatMap escapeChar ++ '"' :: rest) =
      some (text.reverse ++ collected, rest) := by
  induction text generalizing fuel collected with
  | nil =>
      cases fuel with
      | zero => cases enough
      | succ fuel => rfl
  | cons c text induction =>
      cases fuel with
      | zero => cases enough
      | succ fuel =>
          have read := induction (Nat.lt_of_succ_lt_succ enough) (c :: collected)
          rw [List.flatMap_cons, List.append_assoc, List.reverse_cons, List.append_assoc]
          rcases escapeChar_append c (text.flatMap escapeChar ++ '"' :: rest) with
            ⟨plain, notQuote, notEscape, printable⟩ | ⟨escape, escaped, escapeRead⟩
          · rw [plain, stringTail, if_neg printable, read]
            · rw [List.singleton_append]
            · exact notQuote
            · exact notEscape
          · rw [escaped, stringTail, escapeRead]
            exact read

private theorem readString_quoted {text : String} {fuel : Nat} (enough : text.toList.length < fuel)
    (rest : List Char) :
    readString fuel (text.toList.flatMap escapeChar ++ '"' :: rest) = some (text, rest) := by
  rw [readString, stringTail_flatMap _ enough, List.append_nil]
  simp only [Option.map_some, List.reverse_reverse, String.ofList_toList]

private theorem quote_append_inj {text other : String} {rest otherRest : List Char}
    (same : quote text ++ rest = quote other ++ otherRest) : text = other ∧ rest = otherRest := by
  simp only [quote, List.cons_append, List.append_assoc, List.nil_append, List.cons.injEq,
    true_and] at same
  let fuel := max text.toList.length other.toList.length + 1
  have enough : text.toList.length < fuel := Nat.lt_succ_of_le (Nat.le_max_left ..)
  have otherEnough : other.toList.length < fuel := Nat.lt_succ_of_le (Nat.le_max_right ..)
  have read := readString_quoted enough rest
  rw [same, readString_quoted otherEnough] at read
  obtain ⟨texts, rests⟩ := Prod.mk.inj (Option.some.inj read)
  exact ⟨texts.symm, rests.symm⟩

/-- No number goes on with such a text. -/
def Stops (rest : List Char) : Prop := rest.takeWhile isNumeric = []

private theorem stops_nil : Stops [] := rfl

private theorem stops_cons {c : Char} (stops : isNumeric c = false) (rest : List Char) :
    Stops (c :: rest) :=
  List.takeWhile_cons_of_neg (by simp [stops])

section Numbers

variable {number otherNumber : JsonNumber}

private theorem isNumeral_numberText (finite : number.IsFinite) :
    IsNumeral (numberText number).toList := by
  cases number with
  | integer value => exact Decimal.isNumeral_toString value
  | double value => exact (Decimal.isNumeral_jsonText finite).1

private theorem numberText_inj (finite : number.IsFinite) (otherFinite : otherNumber.IsFinite)
    (same : numberText number = numberText otherNumber) : number = otherNumber := by
  cases number with
  | integer value =>
      cases otherNumber with
      | integer other => exact congrArg _ (Decimal.toString_int_inj same)
      | double other => exact absurd same.symm (Decimal.jsonText_ne_toString otherFinite value)
  | double value =>
      cases otherNumber with
      | integer other => exact absurd same (Decimal.jsonText_ne_toString finite other)
      | double other => exact congrArg _ (Decimal.jsonText_inj finite otherFinite same)

private theorem takeWhile_numeral {text rest : List Char} (numeral : IsNumeral text)
    (stops : Stops rest) :
    (text ++ rest).takeWhile isNumeric = text := by
  rw [List.takeWhile_append_of_pos numeral.numeric, stops, List.append_nil]

private theorem numberText_append_inj (finite : number.IsFinite)
    (otherFinite : otherNumber.IsFinite)
    {rest otherRest : List Char} (stops : Stops rest) (otherStops : Stops otherRest)
    (same : (numberText number).toList ++ rest = (numberText otherNumber).toList ++ otherRest) :
    number = otherNumber ∧ rest = otherRest := by
  have texts := congrArg (List.takeWhile isNumeric) same
  rw [takeWhile_numeral (isNumeral_numberText finite) stops,
    takeWhile_numeral (isNumeral_numberText otherFinite) otherStops] at texts
  rw [texts] at same
  exact ⟨numberText_inj finite otherFinite (String.toList_injective texts),
    List.append_cancel_left same⟩

end Numbers

def text (document : Json) : List Char := (write [] document).reverse

variable {α : Type} {textOf : α → List Char}

def separated (textOf : α → List Char) : List α → List Char
  | [] => []
  | item :: items => textOf item ++ items.flatMap fun item => ',' :: textOf item

def memberText (member : String × Json) : List Char := quote member.1 ++ ':' :: member.2.text

private theorem reverse_writeItems_false {items : List Json}
    (each : ∀ item ∈ items, ∀ written, (write written item).reverse = written.reverse ++ item.text)
    (written : List Char) : (writeItems written false items).reverse =
      written.reverse ++ items.flatMap fun item => ',' :: item.text := by
  induction items generalizing written with
  | nil => rw [writeItems, List.flatMap_nil, List.append_nil]
  | cons item items induction =>
      obtain ⟨first, others⟩ := List.forall_mem_cons.mp each
      rw [writeItems, if_neg Bool.false_ne_true, induction others, first]
      simp

private theorem reverse_writeMembers_false {members : List (String × Json)}
    (each : ∀ member ∈ members, ∀ written,
      (write written member.2).reverse = written.reverse ++ member.2.text)
    (written : List Char) : (writeMembers written false members).reverse =
      written.reverse ++ members.flatMap fun member => ',' :: memberText member := by
  induction members generalizing written with
  | nil => rw [writeMembers, List.flatMap_nil, List.append_nil]
  | cons member members induction =>
      obtain ⟨first, others⟩ := List.forall_mem_cons.mp each
      rw [writeMembers, if_neg Bool.false_ne_true, induction others, first]
      simp [memberText]

private theorem reverse_writeItems {items : List Json}
    (each : ∀ item ∈ items, ∀ written, (write written item).reverse = written.reverse ++ item.text)
    (written : List Char) : (writeItems written true items).reverse =
      written.reverse ++ separated text items := by
  cases items with
  | nil => rw [writeItems, separated, List.append_nil]
  | cons item items =>
      obtain ⟨first, others⟩ := List.forall_mem_cons.mp each
      rw [writeItems, if_pos rfl, reverse_writeItems_false others, first, separated,
        List.append_assoc]

private theorem reverse_writeMembers {members : List (String × Json)}
    (each : ∀ member ∈ members, ∀ written,
      (write written member.2).reverse = written.reverse ++ member.2.text)
    (written : List Char) : (writeMembers written true members).reverse =
      written.reverse ++ separated memberText members := by
  cases members with
  | nil => rw [writeMembers, separated, List.append_nil]
  | cons member members =>
      obtain ⟨first, others⟩ := List.forall_mem_cons.mp each
      rw [writeMembers, if_pos rfl, reverse_writeMembers_false others, first, separated]
      simp [memberText]

private theorem reverse_write (document : Json) (written : List Char) :
    (write written document).reverse = written.reverse ++ document.text := by
  induction document using nestedInduction generalizing written with
  | null => simp [text, write]
  | bool value => cases value <;> simp [text, write]
  | number value => simp [text, write]
  | string value => simp [text, write]
  | array items induction =>
      simp [text, write, reverse_writeItems induction]
  | object members induction =>
      simp [text, write, reverse_writeMembers induction]

private theorem text_number (value : JsonNumber) :
    (number value).text = (numberText value).toList := by
  rw [text, write, List.append_nil, List.reverse_reverse]

private theorem text_string (value : String) : (string value).text = quote value := by
  rw [text, write, List.append_nil, List.reverse_reverse]

private theorem text_array (items : List Json) :
    (array items).text = '[' :: separated text items ++ [']'] := by
  simp [text, write, reverse_writeItems fun item _ => reverse_write item]

private theorem text_object (members : List (String × Json)) :
    (object members).text = '\x7b' :: separated memberText members ++ ['\x7d'] := by
  simp [text, write, reverse_writeMembers fun member _ => reverse_write member.2]

section Separated

variable {close : Char} {items others : List α} {rest otherRest : List Char}

/-- Each of the texts is told from what follows it. -/
def Told (textOf : α → List Char) (items others : List α) : Prop :=
  ∀ item ∈ items, ∀ other ∈ others, ∀ rest otherRest, Stops rest → Stops otherRest →
    textOf item ++ rest = textOf other ++ otherRest → item = other ∧ rest = otherRest

private theorem stops_flatMap (stops : isNumeric close = false) (items : List α)
    (rest : List Char) :
    Stops (items.flatMap (fun item => ',' :: textOf item) ++ close :: rest) := by
  cases items with
  | nil => exact stops_cons stops rest
  | cons item items => exact stops_cons rfl _

private theorem flatMap_append_inj (stops : isNumeric close = false) (notComma : close ≠ ',')
    (told : Told textOf items others)
    (same : items.flatMap (fun item => ',' :: textOf item) ++ close :: rest =
      others.flatMap (fun item => ',' :: textOf item) ++ close :: otherRest) :
    items = others ∧ rest = otherRest := by
  induction items generalizing others with
  | nil =>
      cases others with
      | nil => exact ⟨rfl, (List.cons.inj same).2⟩
      | cons other others => exact absurd (List.cons.inj same).1 notComma
  | cons item items induction =>
      cases others with
      | nil => exact absurd (List.cons.inj same).1.symm notComma
      | cons other others =>
          simp only [List.flatMap_cons, List.cons_append, List.append_assoc, List.cons.injEq,
            true_and] at same
          obtain ⟨rfl, later⟩ := told item List.mem_cons_self other List.mem_cons_self _ _
            (stops_flatMap stops items rest) (stops_flatMap stops others otherRest) same
          obtain ⟨rfl, rests⟩ := induction (fun item member other otherMember =>
            told item (List.mem_cons_of_mem _ member) other (List.mem_cons_of_mem _ otherMember))
            later
          exact ⟨rfl, rests⟩

private theorem separated_append_inj (stops : isNumeric close = false) (notComma : close ≠ ',')
    (starts : ∀ item, item ∈ items ∨ item ∈ others → ∃ c rest, textOf item = c :: rest ∧ c ≠ close)
    (told : Told textOf items others)
    (same : separated textOf items ++ close :: rest =
      separated textOf others ++ close :: otherRest) :
    items = others ∧ rest = otherRest := by
  cases items with
  | nil =>
      cases others with
      | nil => exact ⟨rfl, (List.cons.inj same).2⟩
      | cons other others =>
          obtain ⟨c, tail, starting, notClose⟩ := starts other (.inr List.mem_cons_self)
          rw [separated, separated, starting] at same
          exact absurd (List.cons.inj same).1.symm notClose
  | cons item items =>
      cases others with
      | nil =>
          obtain ⟨c, tail, starting, notClose⟩ := starts item (.inl List.mem_cons_self)
          rw [separated, separated, starting] at same
          exact absurd (List.cons.inj same).1 notClose
      | cons other others =>
          exact flatMap_append_inj stops notComma told (congrArg (List.cons ',') same)

end Separated

/-- The first character of a text, one for all those that numbers start with and one for both of
those that truth values start with. -/
def opening : Json → Char
  | .null => 'n'
  | .bool _ => 't'
  | .number _ => '0'
  | .string _ => '"'
  | .array _ => '['
  | .object _ => '\x7b'

def mark (c : Char) : Char := if isNumeric c then '0' else if c == 'f' then 't' else c

private theorem opening_ne (document : Json) : document.opening ≠ ']' := by
  cases document <;> exact nofun

private theorem exists_text {document : Json} (finite : document.IsFinite) :
    ∃ c rest, document.text = c :: rest ∧ mark c = document.opening := by
  cases document with
  | null => exact ⟨_, _, rfl, rfl⟩
  | bool value => cases value <;> exact ⟨_, _, rfl, rfl⟩
  | number value =>
      obtain ⟨filled, numeric⟩ := isNumeral_numberText (finite value .number)
      obtain ⟨c, rest, numeral⟩ := List.exists_cons_of_ne_nil filled
      exact ⟨c, rest, (text_number value).trans numeral,
        if_pos (numeric c (numeral ▸ List.mem_cons_self))⟩
  | string value => exact ⟨_, _, text_string value, rfl⟩
  | array items => exact ⟨_, _, text_array items, rfl⟩
  | object members => exact ⟨_, _, text_object members, rfl⟩

private theorem opening_eq {document other : Json} (finite : document.IsFinite)
    (otherFinite : other.IsFinite) {rest otherRest : List Char}
    (same : document.text ++ rest = other.text ++ otherRest) :
    document.opening = other.opening := by
  obtain ⟨c, tail, starting, marked⟩ := exists_text finite
  obtain ⟨d, otherTail, otherStarting, otherMarked⟩ := exists_text otherFinite
  rw [starting, otherStarting] at same
  rw [← marked, ← otherMarked, (List.cons.inj same).1]

private theorem memberText_append_inj {member other : String × Json} {rest otherRest : List Char}
    (told : ∀ rest otherRest, Stops rest → Stops otherRest →
      member.2.text ++ rest = other.2.text ++ otherRest → member.2 = other.2 ∧ rest = otherRest)
    (stops : Stops rest) (otherStops : Stops otherRest)
    (same : memberText member ++ rest = memberText other ++ otherRest) :
    member = other ∧ rest = otherRest := by
  rw [memberText, memberText, List.append_assoc, List.append_assoc] at same
  obtain ⟨keys, later⟩ := quote_append_inj same
  obtain ⟨values, rests⟩ := told _ _ stops otherStops (List.cons.inj later).2
  exact ⟨Prod.ext keys values, rests⟩

private theorem text_append_inj {document other : Json} (finite : document.IsFinite)
    (otherFinite : other.IsFinite) {rest otherRest : List Char} (stops : Stops rest)
    (otherStops : Stops otherRest) (same : document.text ++ rest = other.text ++ otherRest) :
    document = other ∧ rest = otherRest := by
  have opens := opening_eq finite otherFinite same
  induction document using nestedInduction generalizing other rest otherRest with
  | null =>
      cases other with
      | null => exact ⟨rfl, List.append_cancel_left same⟩
      | _ => exact absurd opens nofun
  | bool value =>
      cases other with
      | bool otherValue =>
          cases value <;> cases otherValue
          · exact ⟨rfl, List.append_cancel_left same⟩
          · exact absurd (List.cons.inj same).1 (by decide)
          · exact absurd (List.cons.inj same).1 (by decide)
          · exact ⟨rfl, List.append_cancel_left same⟩
      | _ => exact absurd opens nofun
  | number value =>
      cases other with
      | number otherValue =>
          rw [text_number, text_number] at same
          obtain ⟨rfl, rests⟩ := numberText_append_inj (finite value .number)
            (otherFinite otherValue .number) stops otherStops same
          exact ⟨rfl, rests⟩
      | _ => exact absurd opens nofun
  | string value =>
      cases other with
      | string otherValue =>
          rw [text_string, text_string] at same
          obtain ⟨rfl, rests⟩ := quote_append_inj same
          exact ⟨rfl, rests⟩
      | _ => exact absurd opens nofun
  | array items induction =>
      cases other with
      | array others =>
          have starts : ∀ item, item ∈ items ∨ item ∈ others →
              ∃ c rest, item.text = c :: rest ∧ c ≠ ']' := by
            intro item listed
            obtain ⟨c, tail, starting, marked⟩ :=
              exists_text (listed.elim (finite.items item) (otherFinite.items item))
            refine ⟨c, tail, starting, ?_⟩
            rintro rfl
            exact opening_ne item marked.symm
          have told : Told text items others := fun item listed other otherListed _ _ stops
              otherStops same => induction item listed (finite.items item listed)
            (otherFinite.items other otherListed) stops otherStops same
            (opening_eq (finite.items item listed) (otherFinite.items other otherListed) same)
          simp only [text_array, List.cons_append, List.append_assoc, List.nil_append,
            List.cons.injEq, true_and] at same
          obtain ⟨rfl, rests⟩ := separated_append_inj rfl (by decide) starts told same
          exact ⟨rfl, rests⟩
      | _ => exact absurd opens nofun
  | object members induction =>
      cases other with
      | object others =>
          have told : Told memberText members others := fun member listed other otherListed _ _ =>
            memberText_append_inj fun _ _ stops otherStops same =>
              induction member listed (finite.values member listed)
                (otherFinite.values other otherListed) stops otherStops same
                (opening_eq (finite.values member listed) (otherFinite.values other otherListed)
                  same)
          simp only [text_object, List.cons_append, List.append_assoc, List.nil_append,
            List.cons.injEq, true_and] at same
          obtain ⟨rfl, rests⟩ := separated_append_inj rfl (by decide)
            (fun member _ => ⟨'"', _, rfl, by decide⟩) told same
          exact ⟨rfl, rests⟩
      | _ => exact absurd opens nofun

theorem compact_inj {document other : Json} (finite : document.IsFinite)
    (otherFinite : other.IsFinite) (same : document.compact = other.compact) :
    document = other := by
  have texts : document.text = other.text := String.ofList_injective same
  exact (text_append_inj finite otherFinite stops_nil stops_nil
    (congrArg (· ++ []) texts)).1

end Json

end ServiceStub
