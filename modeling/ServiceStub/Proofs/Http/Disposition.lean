import ServiceStub.Proofs.Http.Multipart
import Mathlib.Data.List.TakeWhile

/-!
The name of a part, which its disposition gives.  A disposition is cut at every semicolon, also at
one in quotes: a semicolon in the name ends it, and what stands behind a semicolon in a value before
it may be taken for the name.
-/

namespace ServiceStub.Http.Multipart

def inQuotes (value : String) : List Char := '"' :: (value.toList ++ ['"'])

def quoted (parameter : String × String) : List Char :=
  ';' :: (' ' :: parameter.1.toList ++ '=' :: inQuotes parameter.2)

def disposition (parameters : List (String × String)) : String :=
  String.ofList ("form-data".toList ++ parameters.flatMap quoted)

def Content.disposition? (content : Content) : Option String :=
  (Headers.values content.headers "content-disposition").head?

structure IsQuotable (text : String) : Prop where
  oneLine : OneLine text
  unquoted : '"' ∉ text.toList
  unescaped : '\\' ∉ text.toList

structure IsOther (name key : String) : Prop where
  unparted : ';' ∉ key.toList
  uncut : '=' ∉ key.toList
  different : Text.equalsIgnoringAsciiCase (Text.trim key) name = false

/-- Behind a semicolon the value reads like a parameter of that name. -/
def PosesAs (name value : String) : Prop :=
  ∃ key, ';' :: (key ++ ['=']) <:+: value.toList ∧ ';' ∉ key ∧ '=' ∉ key ∧
    Text.equalsIgnoringAsciiCase (Text.trim (String.ofList key)) name = true

variable {name : String} {left right key value piece : List Char}
  {before after parameters : List (String × String)}

def unquote (value : List Char) : String :=
  String.ofList (Text.trimBoth (· == '"') (Text.trimBoth Text.isBlank value))

def reading (name : String) (piece : List Char) : Option String :=
  match Text.splitOnce '=' piece with
  | some (key, value) =>
      if Text.equalsIgnoringAsciiCase (Text.trim (String.ofList key)) name then
        some (unquote value)
      else none
  | none => none

private theorem parameter?_ofList (name : String) (value : List Char) :
    parameter? name (String.ofList value) =
      ((Text.splitAt (· == ';') value).drop 1).findSome? (reading name) := by
  rw [parameter?, String.toList_ofList]
  congr 1
  funext piece
  rw [reading]
  cases Text.splitOnce '=' piece with
  | none => rfl
  | some cut =>
      by_cases same : Text.equalsIgnoringAsciiCase (Text.trim (String.ofList cut.1)) name = true
      · simp only [bind, Option.bind, guard, same, if_true, unquote]
        rfl
      · simp only [bind, Option.bind, guard, if_neg same]
        rfl

private theorem parameter?_free (free : ';' ∉ value) :
    parameter? name (String.ofList value) = none := by
  rw [parameter?_ofList, Text.splitAt_free (Text.beq_of_not_mem free)]
  rfl

private theorem parameter?_append (name : String) (left right : List Char) :
    parameter? name (String.ofList (left ++ ';' :: right)) =
      (parameter? name (String.ofList left)).or
        (parameter? name (String.ofList (';' :: right))) := by
  have cut : Text.splitAt (· == ';') (';' :: right) = [] :: Text.splitAt (· == ';') right := rfl
  have whole : Text.splitAt (· == ';') (left ++ ';' :: right) =
      Text.splitAt (· == ';') left ++ Text.splitAt (· == ';') right :=
    Text.splitAt_append_cons left (beq_self_eq_true ';')
  rw [parameter?_ofList, parameter?_ofList, parameter?_ofList, cut, whole,
    Text.splitAt_eq_cons (· == ';') left]
  simp only [List.cons_append, List.drop_succ_cons, List.drop_zero, List.findSome?_append]

private theorem reading_eq (uncut : '=' ∉ key) (value : List Char) :
    reading name (key ++ '=' :: value) =
      if Text.equalsIgnoringAsciiCase (Text.trim (String.ofList key)) name then
        some (unquote value)
      else none := by
  rw [reading, Text.splitOnce_append uncut]

private theorem exists_of_reading {text : String} (read : reading name piece = some text) :
    ∃ key value, piece = key ++ '=' :: value ∧ '=' ∉ key ∧ text = unquote value ∧
      Text.equalsIgnoringAsciiCase (Text.trim (String.ofList key)) name = true := by
  by_cases present : '=' ∈ piece
  · obtain ⟨key, value, rfl, uncut⟩ := List.eq_append_cons_of_mem present
    rw [reading_eq uncut] at read
    split at read
    · next same => exact ⟨key, value, rfl, uncut, (Option.some.inj read).symm, same⟩
    · cases read
  · rw [reading, Text.splitOnce_free present] at read
    cases read

private theorem parameter?_cons (unparted : ';' ∉ key) (uncut : '=' ∉ key) (name : String)
    (value : List Char) :
    parameter? name (String.ofList (';' :: (key ++ '=' :: value))) =
      if Text.equalsIgnoringAsciiCase (Text.trim (String.ofList key)) name then
        some (unquote (value.takeWhile fun c => !(c == ';')))
      else parameter? name (String.ofList value) := by
  have plain : ';' ∉ key ++ ['='] := by simp [unparted]
  have cut := Text.splitAt_append_left (Text.beq_of_not_mem plain) value
  rw [List.append_assoc, List.append_assoc, List.singleton_append, List.singleton_append] at cut
  have whole : Text.splitAt (· == ';') (';' :: (key ++ '=' :: value)) =
      [] :: Text.splitAt (· == ';') (key ++ '=' :: value) := rfl
  rw [parameter?_ofList, whole, cut, List.drop_succ_cons, List.drop_zero, List.findSome?_cons,
    reading_eq uncut, parameter?_ofList]
  split <;> simp_all

private theorem exists_of_parameter? {text : String}
    (read : parameter? name (String.ofList value) = some text) :
    ∃ before key inner rest, value = before ++ ';' :: (key ++ '=' :: inner ++ rest) ∧
      ';' ∉ key ∧ '=' ∉ key ∧ text = unquote inner ∧
      Text.equalsIgnoringAsciiCase (Text.trim (String.ofList key)) name = true := by
  rw [parameter?_ofList] at read
  obtain ⟨piece, listed, readPiece⟩ := List.exists_of_findSome?_eq_some read
  obtain ⟨key, inner, rfl, uncut, rfl, same⟩ := exists_of_reading readPiece
  obtain ⟨before, separator, rest, separates, rfl⟩ := Text.exists_of_mem_drop_splitAt listed
  have free := Text.free_of_mem_splitAt (List.mem_of_mem_drop listed)
  refine ⟨before, key, inner, rest, ?_, fun inside => ?_, uncut, rfl, same⟩
  · rw [eq_of_beq separates]
  · exact absurd (free ';' (List.mem_append_left _ inside)) (by decide)

private theorem isSome_parameter?_iff (name value : String) :
    (parameter? name value).isSome ↔ PosesAs name value := by
  constructor
  · intro given
    obtain ⟨text, read⟩ := Option.isSome_iff_exists.mp given
    rw [← String.ofList_toList (s := value)] at read
    obtain ⟨before, key, inner, rest, whole, unparted, uncut, -, same⟩ := exists_of_parameter? read
    exact ⟨key, ⟨before, inner ++ rest, by simp [whole]⟩, unparted, uncut, same⟩
  · rintro ⟨key, ⟨before, rest, whole⟩, unparted, uncut, same⟩
    rw [List.append_assoc, List.cons_append, List.append_assoc, List.singleton_append] at whole
    rw [← String.ofList_toList (s := value), ← whole, parameter?_append,
      parameter?_cons unparted uncut, if_pos same, Option.isSome_or, Option.isSome_some,
      Bool.or_true]

private theorem isSome_parameter?_inQuotes_iff (name value : String) :
    (parameter? name (String.ofList (inQuotes value))).isSome ↔ PosesAs name value := by
  rw [isSome_parameter?_iff, PosesAs, PosesAs, String.toList_ofList, inQuotes]
  refine exists_congr fun key => and_congr_left' ?_
  have notFirst : ¬(';' :: (key ++ ['=']) <+: '"' :: (value.toList ++ ['"'])) := by
    simp [List.cons_prefix_cons]
  have notLast : ¬(';' :: (key ++ ['=']) <:+ value.toList ++ ['"']) := by
    rintro ⟨rest, same⟩
    have last := congrArg List.getLast? same
    simp [List.getLast?_cons] at last
  rw [List.infix_cons_iff, List.infix_concat_iff]
  tauto

private theorem infix_of_parameter?_inQuotes {value text : String}
    (read : parameter? name (String.ofList (inQuotes value)) = some text) :
    text.toList <:+: value.toList := by
  obtain ⟨before, key, inner, rest, whole, -, -, rfl, -⟩ := exists_of_parameter? read
  cases before with
  | nil => simp [inQuotes] at whole
  | cons first before =>
      have inside : inner <:+: value.toList ++ ['"'] :=
        ⟨before ++ ';' :: (key ++ ['=']), rest, by simp_all [inQuotes]⟩
      have started : Text.trimStart (· == '"') (Text.trimBoth Text.isBlank inner) <:+:
          value.toList ++ ['"'] :=
        ((List.dropWhile_suffix _).isInfix.trans (Text.trimBoth_infix inner)).trans inside
      have ended : Text.trimEnd (· == '"')
          (Text.trimStart (· == '"') (Text.trimBoth Text.isBlank inner)) <:+: value.toList :=
        Text.trimEnd_infix_of_infix_concat (by decide) started
      rwa [unquote, String.toList_ofList]

private theorem parameter?_append_quoted (name : String) (left : List Char)
    (parameters : List (String × String)) :
    parameter? name (String.ofList (left ++ parameters.flatMap quoted)) =
      (parameter? name (String.ofList left)).or
        (parameter? name (String.ofList (parameters.flatMap quoted))) := by
  cases parameters with
  | nil =>
      rw [List.flatMap_nil, List.append_nil, parameter?_free List.not_mem_nil, Option.or_none]
  | cons parameter parameters => exact parameter?_append name left _

/-- Of a parameter with another name only its value can pose as the one that is looked for. -/
theorem parameter?_quoted_cons {key : String} (other : IsOther name key) (value : String)
    (parameters : List (String × String)) :
    parameter? name (String.ofList (((key, value) :: parameters).flatMap quoted)) =
      (parameter? name (String.ofList (inQuotes value))).or
        (parameter? name (String.ofList (parameters.flatMap quoted))) := by
  have unparted : ';' ∉ ' ' :: key.toList := by simp [other.unparted]
  have uncut : '=' ∉ ' ' :: key.toList := by simp [other.uncut]
  have trimmed : Text.trim (String.ofList (' ' :: key.toList)) = Text.trim key := by
    rw [Text.trim, Text.trim, String.toList_ofList, Text.trimBoth_cons (by decide)]
  have parted : ((key, value) :: parameters).flatMap quoted =
      ';' :: ((' ' :: key.toList) ++ '=' :: (inQuotes value ++ parameters.flatMap quoted)) := by
    simp [quoted]
  rw [parted, parameter?_cons unparted uncut, trimmed, other.different,
    if_neg Bool.false_ne_true, parameter?_append_quoted]

private theorem unquote_inQuotes {text : String} (unquoted : '"' ∉ text.toList) :
    unquote (inQuotes text) = text := by
  rw [unquote, inQuotes, Text.trimBoth_of_ends (by decide) (by decide),
    Text.trimBoth_enclosed rfl (Text.beq_of_not_mem unquoted), String.ofList_toList]

private theorem unquote_takeWhile_eq_iff {text : String} (unquoted : '"' ∉ text.toList)
    (parameters : List (String × String)) :
    unquote ((inQuotes text ++ parameters.flatMap quoted).takeWhile fun c => !(c == ';')) = text ↔
      ';' ∉ text.toList := by
  constructor
  · intro same inside
    rw [← same, unquote, String.toList_ofList] at inside
    have kept := ((Text.trimBoth_infix _).trans (Text.trimBoth_infix _)).subset inside
    exact absurd (List.mem_takeWhile_imp kept) (by decide)
  · intro unparted
    have free : ∀ c ∈ inQuotes text, (!(c == ';')) = true := by
      have unpartedQuoted : ';' ∉ inQuotes text := by simp [inQuotes, unparted]
      intro c inside
      rw [Text.beq_of_not_mem unpartedQuoted c inside, Bool.not_false]
    have stops : (parameters.flatMap quoted).takeWhile (fun c => !(c == ';')) = [] := by
      cases parameters with
      | nil => rfl
      | cons parameter parameters => rfl
    rw [List.takeWhile_append_of_pos free, stops, List.append_nil, unquote_inQuotes unquoted]

private theorem parameter?_name_cons (text : String) (parameters : List (String × String)) :
    parameter? "name" (String.ofList ((("name", text) :: parameters).flatMap quoted)) =
      some (unquote ((inQuotes text ++ parameters.flatMap quoted).takeWhile
        fun c => !(c == ';'))) := by
  have parted : (("name", text) :: parameters).flatMap quoted =
      ';' :: (" name".toList ++ '=' :: (inQuotes text ++ parameters.flatMap quoted)) := by
    simp [quoted]
  have named : Text.equalsIgnoringAsciiCase
      (Text.trim (String.ofList " name".toList)) "name" = true := by decide +kernel
  rw [parted, parameter?_cons (by decide +kernel) (by decide +kernel), if_pos named]

private theorem parameter?_disposition (name : String) (parameters : List (String × String)) :
    parameter? name (disposition parameters) =
      parameter? name (String.ofList (parameters.flatMap quoted)) := by
  have unparted : ';' ∉ "form-data".toList := by decide +kernel
  unfold disposition
  rw [parameter?_append_quoted, parameter?_free unparted]
  rfl

section Others

variable {before : List (String × String)} (others : ∀ parameter ∈ before, IsOther name parameter.1)
include others

private theorem parameter?_append_of_honest
    (honest : ∀ parameter ∈ before, ¬PosesAs name parameter.2) (rest : List (String × String)) :
    parameter? name (String.ofList ((before ++ rest).flatMap quoted)) =
      parameter? name (String.ofList (rest.flatMap quoted)) := by
  induction before with
  | nil => rfl
  | cons parameter before induction =>
      obtain ⟨other, otherRest⟩ := List.forall_mem_cons.mp others
      obtain ⟨first, honestRest⟩ := List.forall_mem_cons.mp honest
      have silent : parameter? name (String.ofList (inQuotes parameter.2)) = none := by
        rwa [← isSome_parameter?_inQuotes_iff, Option.not_isSome_iff_eq_none] at first
      rw [List.cons_append, parameter?_quoted_cons other, silent, Option.none_or,
        induction otherRest honestRest]

private theorem exists_parameter?_of_posing
    (posing : ∃ parameter ∈ before, PosesAs name parameter.2) (rest : List (String × String)) :
    ∃ parameter ∈ before, ∃ posed,
      parameter? name (String.ofList ((before ++ rest).flatMap quoted)) = some posed ∧
        posed.toList <:+: parameter.2.toList := by
  induction before with
  | nil => simp at posing
  | cons parameter before induction =>
      obtain ⟨other, otherRest⟩ := List.forall_mem_cons.mp others
      rw [List.cons_append, parameter?_quoted_cons other]
      cases read : parameter? name (String.ofList (inQuotes parameter.2)) with
      | some posed =>
          exact ⟨parameter, List.mem_cons_self, posed, rfl, infix_of_parameter?_inQuotes read⟩
      | none =>
          have honest : ¬PosesAs name parameter.2 := by
            rw [← isSome_parameter?_inQuotes_iff, read]
            decide
          rw [List.exists_mem_cons_iff] at posing
          obtain ⟨later, listed, posed, readLater, inside⟩ :=
            induction otherRest (posing.resolve_left honest)
          exact ⟨later, List.mem_cons_of_mem _ listed, posed, readLater, inside⟩

end Others

/-- A part goes by the name that its disposition gives, just if there is no semicolon in the name,
unless a value before it poses as the name: then the part goes by what is cut out of such a
value. -/
theorem name_of_disposition {boundary : String} (isBoundary : IsBoundary boundary)
    {contents : List Content} (fits : ∀ content ∈ contents, content.Fits boundary)
    {preamble : Bytes} (isPreamble : IsPreamble boundary preamble) (epilogue : Bytes)
    {content : Content} {index : Nat} (listed : contents[index]? = some content)
    {before after : List (String × String)} {name : String}
    (written : content.disposition? = some (disposition (before ++ ("name", name) :: after)))
    (others : ∀ parameter ∈ before, IsOther "name" parameter.1) (unquoted : '"' ∉ name.toList) :
    ∃ parts part, decode boundary (preamble ++ encode boundary contents ++ epilogue) = .ok parts ∧
      parts[index]? = some part ∧
      ((∀ parameter ∈ before, ¬PosesAs "name" parameter.2) →
        (part.name = some name ↔ ';' ∉ name.toList)) ∧
      ((∃ parameter ∈ before, PosesAs "name" parameter.2) →
        ∃ parameter ∈ before, ∃ posed, part.name = some posed ∧
          posed.toList <:+: parameter.2.toList) := by
  have named : content.part.name =
      parameter? "name" (String.ofList ((before ++ ("name", name) :: after).flatMap quoted)) := by
    rw [← parameter?_disposition]
    exact congrArg (Option.bind · (parameter? "name")) written
  refine ⟨_, content.part, decode_written isBoundary fits isPreamble epilogue, ?_, ?_, ?_⟩
  · rw [List.getElem?_map, listed, Option.map_some]
  · intro honest
    rw [named, parameter?_append_of_honest others honest, parameter?_name_cons, Option.some.injEq,
      unquote_takeWhile_eq_iff unquoted]
  · rw [named]
    exact fun posing => exists_parameter?_of_posing others posing _

/-- A field whose file name holds a semicolon, with a note behind the name that poses as a name. -/
def photo : Content where
  headers := [("Content-Type", "image/png"), ("Content-Disposition",
    disposition [("filename", "a;b.png"), ("name", "my photo"), ("note", "; name=other")])]
  body := [0x89, 0x0D, 0x0A]

theorem name_of_disposition_photo :
    let before := [("filename", "a;b.png")]
    IsBoundary "xyz" ∧ (∀ content ∈ [photo], content.Fits "xyz") ∧ IsPreamble "xyz" [] ∧
      photo.disposition? =
        some (disposition (before ++ ("name", "my photo") :: [("note", "; name=other")])) ∧
      (∀ parameter ∈ before, IsOther "name" parameter.1) ∧
      (∀ parameter ∈ before, ¬PosesAs "name" parameter.2) ∧
      ∃ parts part, decode "xyz" ([] ++ encode "xyz" [photo] ++ []) = .ok parts ∧
        parts[0]? = some part ∧ part.name = some "my photo" := by
  intro before
  have isBoundary : IsBoundary "xyz" :=
    ⟨⟨by decide, by decide⟩, by decide, by decide, by decide +kernel⟩
  have fits : ∀ content ∈ [photo], content.Fits "xyz" := by
    simp only [List.forall_mem_cons, photo]
    refine ⟨⟨?_, ?_, by decide +kernel⟩, nofun⟩
    · simp only [List.forall_mem_cons]
      refine ⟨⟨⟨⟨?_, ?_⟩, ?_, ?_⟩, ?_, ?_, ?_⟩, ⟨⟨⟨?_, ?_⟩, ?_, ?_⟩, ?_, ?_, ?_⟩, nofun⟩
      all_goals decide +kernel
    · decide +kernel
  have isPreamble : IsPreamble "xyz" [] := ⟨.inl rfl, by decide +kernel⟩
  have written : photo.disposition? =
      some (disposition (before ++ ("name", "my photo") :: [("note", "; name=other")])) := by
    decide +kernel
  have others : ∀ parameter ∈ before, IsOther "name" parameter.1 :=
    List.forall_mem_singleton.mpr ⟨by decide +kernel, by decide +kernel, by decide +kernel⟩
  have honest : ∀ parameter ∈ before, ¬PosesAs "name" parameter.2 := by
    refine List.forall_mem_singleton.mpr ?_
    rw [← isSome_parameter?_iff]
    decide +kernel
  have listed : [photo][0]? = some photo := rfl
  obtain ⟨parts, part, decoded, found, named, -⟩ := name_of_disposition isBoundary fits isPreamble
    [] listed written others (by decide +kernel)
  exact ⟨isBoundary, fits, isPreamble, written, others, honest, parts, part, decoded, found,
    (named honest).mpr (by decide +kernel)⟩

/-- A file name that was chosen by a client gives its part another name than the one declared. -/
theorem fileName_poses_as_name :
    IsOther "name" "filename" ∧ IsQuotable "a; name=b" ∧ IsQuotable "file" ∧
      ∃ part, decode "xyz" (encode "xyz" [⟨[("Content-Disposition",
          disposition [("filename", "a; name=b"), ("name", "file")])], []⟩]) = .ok [part] ∧
        part.name = some "b" := by
  refine ⟨⟨?_, ?_, ?_⟩, ⟨⟨?_, ?_⟩, ?_, ?_⟩, ⟨⟨?_, ?_⟩, ?_, ?_⟩, ⟨some "b", [("Content-Disposition",
    disposition [("filename", "a; name=b"), ("name", "file")])], []⟩, ?_, rfl⟩
  all_goals decide +kernel

end ServiceStub.Http.Multipart
