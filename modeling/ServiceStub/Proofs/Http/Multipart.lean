import ServiceStub.Proofs.Http.Parts
import ServiceStub.Proofs.Text.Chars
import ServiceStub.Proofs.Text.Utf8
import Mathlib.Data.Option.Basic

/-!
Bodies in several parts as a sender writes them.  Each part is read back with its headers and its
bytes, whatever stands before the first boundary and after the last one.
-/

namespace ServiceStub.Http

namespace Multipart

open Text (Clear toBytes)

def lineBreak : Bytes := [carriageReturn, lineFeed]

def delimiter (boundary : String) : Bytes := toBytes ("--" ++ boundary)

structure Content where
  headers : Headers
  body : Bytes
  deriving Repr, DecidableEq

def headerLine (header : String × String) : String := header.1 ++ ": " ++ header.2

def Content.encode (content : Content) : Bytes :=
  (content.headers.flatMap fun header => toBytes (headerLine header) ++ lineBreak) ++ lineBreak ++
    content.body

/-- The part as it is read, which goes by the name that its disposition gives. -/
def Content.part (content : Content) : Part where
  name := (Headers.values content.headers "content-disposition").head?.bind (parameter? "name")
  headers := content.headers
  body := content.body

/-- The parts, each after a boundary, and a last boundary that two hyphens follow. -/
def encode (boundary : String) (contents : List Content) : Bytes :=
  (contents.flatMap fun content =>
      delimiter boundary ++ lineBreak ++ content.encode ++ lineBreak) ++
    delimiter boundary ++ [0x2D, 0x2D] ++ lineBreak

def OneLine (text : String) : Prop := '\r' ∉ text.toList ∧ '\n' ∉ text.toList

structure IsBoundary (boundary : String) : Prop where
  oneLine : OneLine boundary
  unparted : ';' ∉ boundary.toList
  unquoted : '"' ∉ boundary.toList
  trimmed : Text.trim boundary = boundary

structure IsHeader (header : String × String) : Prop where
  oneLine : OneLine header.1 ∧ OneLine header.2
  uncut : ':' ∉ header.1.toList
  trimmed : Text.trim header.1 = header.1 ∧ Text.trim header.2 = header.2

/-- The part can stand between the boundaries: it holds no delimiter. -/
structure Content.Fits (boundary : String) (content : Content) : Prop where
  headers : ∀ header ∈ content.headers, IsHeader header
  lines : ∀ header ∈ content.headers, ¬delimiter boundary <:+: toBytes (headerLine header)
  body : ¬delimiter boundary <:+: content.body

structure IsPreamble (boundary : String) (preamble : Bytes) : Prop where
  ended : preamble = [] ∨ lineBreak <:+ preamble
  free : ¬delimiter boundary <:+: preamble

private theorem carriageReturn_not_mem {text : String} (oneLine : OneLine text) :
    carriageReturn ∉ toBytes text :=
  fun member => oneLine.1 (Text.mem_toBytes (by decide) member)

private theorem lineFeed_not_mem {text : String} (oneLine : OneLine text) :
    lineFeed ∉ toBytes text :=
  fun member => oneLine.2 (Text.mem_toBytes (by decide) member)

theorem OneLine.append {left right : String} (first : OneLine left) (second : OneLine right) :
    OneLine (left ++ right) := by
  simp only [OneLine, String.toList_append, List.mem_append, not_or] at *
  exact ⟨⟨first.1, second.1⟩, first.2, second.2⟩

private theorem IsHeader.oneLine_headerLine {header : String × String}
    (isHeader : IsHeader header) :
    OneLine (headerLine header) :=
  (isHeader.oneLine.1.append ⟨by decide, by decide⟩).append isHeader.oneLine.2

private theorem toList_headerLine (header : String × String) :
    (headerLine header).toList = header.1.toList ++ ':' :: ' ' :: header.2.toList := by
  simp [headerLine]

private theorem header_headerLine {header : String × String} (isHeader : IsHeader header) :
    Multipart.header (headerLine header).toList = .ok header := by
  obtain ⟨nameTrimmed, valueTrimmed⟩ := isHeader.trimmed
  have value : Text.trim (String.ofList (' ' :: header.2.toList)) = header.2 := by
    rw [Text.trim, String.toList_ofList, Text.trimBoth_cons (by decide), ← Text.trim, valueTrimmed]
  rw [Multipart.header, toList_headerLine, Text.splitOnce_append isHeader.uncut]
  simp only [String.ofList_toList, nameTrimmed, value]

private theorem mapM_header {headers : Headers} (each : ∀ header ∈ headers, IsHeader header) :
    (headers.map fun header => (headerLine header).toList).mapM Multipart.header = .ok headers := by
  induction headers with
  | nil => rfl
  | cons header rest induction =>
      obtain ⟨first, others⟩ := List.forall_mem_cons.mp each
      rw [List.map_cons, List.mapM_cons, header_headerLine first, induction others]
      rfl

private theorem headerLine_not_blank (header : String × String) :
    (Text.trimBoth Text.isBlank (headerLine header).toList).isEmpty = false := by
  have colon : ':' ∈ (headerLine header).toList := by simp [toList_headerLine]
  have notBlank : Text.isBlank ':' = false := by decide
  exact List.isEmpty_eq_false_iff.mpr (List.ne_nil_of_mem (Text.mem_trimBoth colon notBlank))

private theorem lines_cons {line rest : List Char} (free : '\n' ∉ line) :
    lines (String.ofList (line ++ '\r' :: '\n' :: rest)) = line :: lines (String.ofList rest) := by
  have plain : '\n' ∉ line ++ ['\r'] := by simp [free]
  have cut : Text.splitAt (· == '\n') (line ++ '\r' :: '\n' :: rest) =
      (line ++ ['\r']) :: Text.splitAt (· == '\n') rest := by
    rw [← Text.splitAt_append (Text.beq_of_not_mem plain) (beq_self_eq_true '\n')]
    simp
  simp only [lines, String.toList_ofList, cut]
  cases pieces : Text.splitAt (· == '\n') rest with
  | nil => exact absurd pieces (Text.splitAt_ne_nil rest)
  | cons piece pieces =>
      rw [List.getLast?_cons_cons, List.dropLast_cons_cons, List.map_cons, Text.stripEnd?_append,
        Option.getD_some]
      split <;> rfl

private theorem lines_last {line : List Char} (free : '\n' ∉ line) (nonempty : line ≠ []) :
    lines (String.ofList line) = [line] := by
  simp [lines, Text.splitAt_free (Text.beq_of_not_mem free)]

/-- The lines of the headers without the end of the last one. -/
def headText (first : String × String) (rest : Headers) : String :=
  String.ofList ((headerLine first).toList ++
    rest.flatMap fun header => '\r' :: '\n' :: (headerLine header).toList)

private theorem toBytes_headText (first : String × String) (rest : Headers) :
    toBytes (headText first rest) = toBytes (headerLine first) ++
      rest.flatMap fun header => lineBreak ++ toBytes (headerLine header) := by
  rw [headText, Text.toBytes_ofList, List.flatMap_append, List.flatMap_assoc, ← Text.toBytes_eq]
  simp only [List.flatMap_cons, ← Text.toBytes_eq]
  rfl

private theorem headers_encode (first : String × String) (rest : Headers) :
    ((first :: rest).flatMap fun header => toBytes (headerLine header) ++ lineBreak) =
      toBytes (headText first rest) ++ lineBreak := by
  rw [toBytes_headText]
  induction rest generalizing first with
  | nil => simp
  | cons second rest induction =>
      rw [List.flatMap_cons, induction second]
      simp

private theorem lines_headText {first : String × String} {rest : Headers}
    (each : ∀ header ∈ first :: rest, IsHeader header) :
    lines (headText first rest) = (first :: rest).map fun header => (headerLine header).toList := by
  induction rest generalizing first with
  | nil =>
      have oneLine := (each first List.mem_cons_self).oneLine_headerLine
      rw [headText, List.flatMap_nil, List.append_nil]
      exact lines_last oneLine.2 (by simp [toList_headerLine])
  | cons second rest induction =>
      obtain ⟨isHeader, others⟩ := List.forall_mem_cons.mp each
      have apart : headText first (second :: rest) = String.ofList ((headerLine first).toList ++
          '\r' :: '\n' :: (headText second rest).toList) := by
        simp [headText]
      rw [apart, lines_cons isHeader.oneLine_headerLine.2, String.ofList_toList,
        induction others]
      rfl

private theorem headerLine_ne_empty (header : String × String) : headerLine header ≠ "" := by
  intro empty
  have noChars := congrArg String.toList empty
  simp [toList_headerLine] at noChars

private theorem exists_headerLine_eq {header : String × String} (isHeader : IsHeader header) :
    ∃ first rest, toBytes (headerLine header) = first :: rest ∧ first ≠ carriageReturn := by
  obtain ⟨first, rest, bytes⟩ :=
    List.exists_cons_of_ne_nil (Text.toBytes_ne_nil (headerLine_ne_empty header))
  refine ⟨first, rest, bytes, ?_⟩
  rintro rfl
  exact carriageReturn_not_mem isHeader.oneLine_headerLine (bytes ▸ List.mem_cons_self)

/-- A line break after which a line begins is no empty line. -/
theorem clear_lineBreak {byte : UInt8} {bytes : Bytes} (different : byte ≠ carriageReturn)
    (clear : Clear (lineBreak ++ lineBreak) (byte :: bytes)) :
    Clear (lineBreak ++ lineBreak) (lineBreak ++ byte :: bytes) := by
  intro rest
  have other : (carriageReturn == byte) = false := beq_false_of_ne different.symm
  have lineFeedDiffers : (carriageReturn == lineFeed) = false := rfl
  have skipped : Text.indexOf? (lineBreak ++ lineBreak) (lineBreak ++ (byte :: bytes ++ rest)) =
      (Text.indexOf? (lineBreak ++ lineBreak) (byte :: bytes ++ rest)).map (· + 2) := by
    simp only [lineBreak, List.cons_append, List.nil_append, Text.indexOf?, List.isPrefixOf, other,
      lineFeedDiffers, Bool.false_and, Bool.and_false, Bool.false_eq_true, if_false,
      Option.map_map]
    rfl
  rw [List.append_assoc, skipped, clear, Option.map_map, List.length_append]
  congr 1
  funext position
  exact (Nat.add_assoc _ _ _).trans (congrArg (position + ·) (Nat.add_comm _ _))

private theorem clear_headText {first : String × String} {rest : Headers}
    (each : ∀ header ∈ first :: rest, IsHeader header) :
    Clear (lineBreak ++ lineBreak) (toBytes (headText first rest)) := by
  obtain ⟨firstIs, others⟩ := List.forall_mem_cons.mp each
  have clear {header : String × String} (isHeader : IsHeader header) :
      Clear (lineBreak ++ lineBreak) (toBytes (headerLine header)) :=
    Text.clear_of_not_mem (carriageReturn_not_mem isHeader.oneLine_headerLine)
  rw [toBytes_headText]
  refine (clear firstIs).append (Clear.flatMap fun header listed => ?_)
  obtain ⟨byte, bytes, starts, different⟩ := exists_headerLine_eq (others header listed)
  have rendered := clear (others header listed)
  rw [starts] at rendered ⊢
  exact clear_lineBreak different rendered

private theorem splitAtFirst?_append {needle bytes : Bytes} (clear : Clear needle bytes)
    (rest : Bytes) :
    splitAtFirst? needle (bytes ++ (needle ++ rest)) = some (bytes, rest) := by
  rw [splitAtFirst?, clear.indexOf?_append, Option.map_some, List.take_left,
    ← List.drop_drop, List.drop_left, List.drop_left]

private theorem splitHead_headText {first : String × String} {rest : Headers}
    (each : ∀ header ∈ first :: rest, IsHeader header) (body : Bytes) :
    splitHead (toBytes (headText first rest) ++ lineBreak ++ lineBreak ++ body) =
      .ok (toBytes (headText first rest), body) := by
  obtain ⟨byte, bytes, starts, different⟩ := exists_headerLine_eq (each first List.mem_cons_self)
  have begins (after : Bytes) : Text.stripStart? [carriageReturn, lineFeed]
      (toBytes (headText first rest) ++ after) = none := by
    rw [toBytes_headText, starts, List.cons_append, List.cons_append, Text.stripStart?,
      beq_false_of_ne different.symm, if_neg Bool.false_ne_true]
  have found := splitAtFirst?_append (clear_headText each) body
  rw [splitHead, List.append_assoc, List.append_assoc, begins]
  simp only [lineBreak, List.cons_append, List.nil_append] at found ⊢
  rw [found]

private theorem part_encode {boundary : String} {content : Content} (fits : content.Fits boundary) :
    Multipart.part content.encode = .ok content.part := by
  obtain ⟨headers, body⟩ := content
  cases headers with
  | nil =>
      have head : splitHead (Content.encode ⟨[], body⟩) = .ok (toBytes "", body) := by
        rw [Content.encode, List.flatMap_nil, List.nil_append, splitHead, lineBreak,
          Text.stripStart?_append]
        rfl
      rw [Multipart.part, head]
      simp only [bind, Except.bind, Text.ofBytes?_toBytes]
      rfl
  | cons first rest =>
      have head : splitHead (Content.encode ⟨first :: rest, body⟩) =
          .ok (toBytes (headText first rest), body) := by
        rw [Content.encode, headers_encode, splitHead_headText fits.headers]
      have kept : ((first :: rest).map fun header => (headerLine header).toList).filter
          (fun line => !(Text.trimBoth Text.isBlank line).isEmpty) =
            (first :: rest).map fun header => (headerLine header).toList := by
        rw [List.filter_eq_self]
        intro line listed
        obtain ⟨header, -, rfl⟩ := List.mem_map.mp listed
        rw [headerLine_not_blank, Bool.not_false]
      rw [Multipart.part, head]
      simp only [bind, Except.bind, Text.ofBytes?_toBytes, lines_headText fits.headers, kept,
        mapM_header fits.headers]
      rfl

private theorem not_mem_delimiter {boundary : String} (isBoundary : IsBoundary boundary) :
    carriageReturn ∉ delimiter boundary ∧ lineFeed ∉ delimiter boundary := by
  have oneLine : OneLine ("--" ++ boundary) :=
    OneLine.append ⟨by decide, by decide⟩ isBoundary.oneLine
  exact ⟨carriageReturn_not_mem oneLine, lineFeed_not_mem oneLine⟩

private theorem clear_line {boundary : String} (isBoundary : IsBoundary boundary) {bytes : Bytes}
    (free : ¬delimiter boundary <:+: bytes) : Clear (delimiter boundary) (bytes ++ lineBreak) := by
  obtain ⟨noReturn, noFeed⟩ := not_mem_delimiter isBoundary
  have empty : ¬delimiter boundary <:+: [] := fun inside =>
    free (inside.trans List.nil_infix)
  have clear := (Text.clear_of_stop noReturn free).append (Text.clear_of_stop noFeed empty)
  rwa [List.append_assoc] at clear

private theorem clear_encode {boundary : String} (isBoundary : IsBoundary boundary)
    {content : Content} (fits : content.Fits boundary) :
    Clear (delimiter boundary) (content.encode ++ lineBreak) := by
  have empty : ¬delimiter boundary <:+: [] := fun inside =>
    fits.body (inside.trans List.nil_infix)
  have clear := ((Clear.flatMap fun header listed =>
    clear_line isBoundary (fits.lines header listed)).append (clear_line isBoundary empty)).append
      (clear_line isBoundary fits.body)
  simpa [Content.encode] using clear

theorem IsPreamble.clear {boundary : String} (isBoundary : IsBoundary boundary) {preamble : Bytes}
    (isPreamble : IsPreamble boundary preamble) : Clear (delimiter boundary) preamble := by
  rcases isPreamble.ended with rfl | ⟨before, rfl⟩
  · exact .nil
  · exact clear_line isBoundary fun inside =>
      isPreamble.free (inside.trans (List.prefix_append before lineBreak).isInfix)

def afterDelimiter (boundary : String) (epilogue : Bytes) : List Content → Bytes
  | [] => [0x2D, 0x2D] ++ lineBreak ++ epilogue
  | content :: rest => lineBreak ++ (content.encode ++ lineBreak ++
      (delimiter boundary ++ afterDelimiter boundary epilogue rest))

private theorem encode_append (boundary : String) (epilogue : Bytes) (contents : List Content) :
    encode boundary contents ++ epilogue =
      delimiter boundary ++ afterDelimiter boundary epilogue contents := by
  induction contents with
  | nil => simp [encode, afterDelimiter]
  | cons content rest induction =>
      rw [afterDelimiter, ← induction]
      simp [encode]

private theorem length_le_afterDelimiter (boundary : String) (epilogue : Bytes)
    (contents : List Content) :
    contents.length ≤ (afterDelimiter boundary epilogue contents).length := by
  induction contents with
  | nil => exact Nat.zero_le _
  | cons content rest induction =>
      simp only [afterDelimiter, lineBreak, List.length_append, List.length_cons, List.length_nil]
      omega

/-- Each round of the decoder reads one part and stops after the delimiter that follows it. -/
theorem parts_afterDelimiter {boundary : String} (isBoundary : IsBoundary boundary)
    (epilogue : Bytes) {contents : List Content}
    (fits : ∀ content ∈ contents, content.Fits boundary) {fuel : Nat}
    (enough : contents.length < fuel) :
    parts (delimiter boundary) fuel (afterDelimiter boundary epilogue contents) =
      .ok (contents.map Content.part) := by
  induction contents generalizing fuel with
  | nil =>
      cases fuel with
      | zero => cases enough
      | succ fuel => rfl
  | cons content rest induction =>
      cases fuel with
      | zero => cases enough
      | succ fuel =>
          obtain ⟨first, others⟩ := List.forall_mem_cons.mp fits
          have opened (after : Bytes) : skipLineBreak (lineBreak ++ after) = after := by
            rw [skipLineBreak, lineBreak, Text.stripStart?_append]
          have found := splitAtFirst?_append (clear_encode isBoundary first)
            (afterDelimiter boundary epilogue rest)
          have dropped : dropLineBreak (content.encode ++ lineBreak) = content.encode := by
            rw [dropLineBreak, lineBreak, Text.stripEnd?_append]
          have continues (after : Bytes) : [0x2D, 0x2D].isPrefixOf (lineBreak ++ after) = false :=
            rfl
          rw [afterDelimiter, parts, continues, if_neg Bool.false_ne_true, opened, found]
          simp only [dropped, part_encode first, induction others (Nat.lt_of_succ_lt_succ enough)]
          rfl

private theorem boundary?_formData {value : List Char} (unparted : ';' ∉ value) :
    boundary? ("multipart/form-data; boundary=" ++ String.ofList value) =
      some (String.ofList (Text.trimBoth (· == '"') (Text.trimBoth Text.isBlank value))) := by
  have whole : ("multipart/form-data; boundary=" ++ String.ofList value).toList =
      "multipart/form-data".toList ++ ';' :: (" boundary".toList ++ '=' :: value) := by
    simp
  have isMultipart : "multipart/".toList.isPrefixOf
      ((Text.trimStart Text.isBlank ("multipart/form-data".toList ++
        ';' :: (" boundary".toList ++ '=' :: value))).map Text.asciiLower) := rfl
  have unpartedFirst : ';' ∉ "multipart/form-data".toList := by decide +kernel
  have unpartedLast : ';' ∉ " boundary".toList ++ '=' :: value := by
    simp [unparted]
  have pieces : Text.splitAt (· == ';') ("multipart/form-data".toList ++
      ';' :: (" boundary".toList ++ '=' :: value)) =
        ["multipart/form-data".toList, " boundary".toList ++ '=' :: value] := by
    rw [Text.splitAt_append (Text.beq_of_not_mem unpartedFirst) rfl,
      Text.splitAt_free (Text.beq_of_not_mem unpartedLast)]
  have named : Text.equalsIgnoringAsciiCase
      (Text.trim (String.ofList " boundary".toList)) "boundary" := by decide +kernel
  rw [boundary?, whole, if_pos isMultipart, parameter?, whole, pieces]
  simp only [List.drop_succ_cons, List.drop_zero, List.findSome?_cons,
    Text.splitOnce_append (by decide +kernel : '=' ∉ " boundary".toList), bind, Option.bind, named]
  rfl

private theorem boundary?_plain {boundary : String} (isBoundary : IsBoundary boundary) :
    boundary? ("multipart/form-data; boundary=" ++ boundary) = some boundary := by
  have trimmed := congrArg String.toList isBoundary.trimmed
  rw [Text.trim, String.toList_ofList] at trimmed
  have read := boundary?_formData isBoundary.unparted
  rwa [trimmed, Text.trimBoth_free (Text.beq_of_not_mem isBoundary.unquoted),
    String.ofList_toList] at read

private theorem boundary?_quoted {boundary : String} (isBoundary : IsBoundary boundary) :
    boundary? ("multipart/form-data; boundary=\"" ++ boundary ++ "\"") = some boundary := by
  have unparted : ';' ∉ '"' :: (boundary.toList ++ ['"']) := by
    simp [isBoundary.unparted]
  have read := boundary?_formData unparted
  rw [Text.trimBoth_of_ends (by decide) (by decide),
    Text.trimBoth_enclosed rfl (Text.beq_of_not_mem isBoundary.unquoted),
    String.ofList_toList] at read
  rw [← read]
  congr 1
  rw [← String.toList_inj]
  simp

theorem decode_written {boundary : String} (isBoundary : IsBoundary boundary)
    {contents : List Content} (fits : ∀ content ∈ contents, content.Fits boundary)
    {preamble : Bytes} (isPreamble : IsPreamble boundary preamble) (epilogue : Bytes) :
    decode boundary (preamble ++ encode boundary contents ++ epilogue) =
      .ok (contents.map Content.part) := by
  rw [List.append_assoc, encode_append, decode, ← delimiter,
    splitAtFirst?_append (isPreamble.clear isBoundary)]
  exact parts_afterDelimiter isBoundary epilogue fits
    (Nat.lt_succ_of_le (length_le_afterDelimiter boundary epilogue contents))

/-- Decoding undoes encoding, for the bytes themselves and for a request that comes to hold them
and whose content type gives the boundary, in quotes or not: unless parts were given in their place
or asked for too early. -/
theorem decode_encode {boundary : String} (isBoundary : IsBoundary boundary)
    {contents : List Content} (fits : ∀ content ∈ contents, content.Fits boundary)
    {preamble : Bytes} (isPreamble : IsPreamble boundary preamble) (epilogue : Bytes) :
    decode boundary (preamble ++ encode boundary contents ++ epilogue) =
        .ok (contents.map Content.part) ∧
      ∀ (start : Request) (calls : List Request.Call), start.decoded = none →
        let request := start.run calls
        request.body = preamble ++ encode boundary contents ++ epilogue →
        (request.contentType = some ("multipart/form-data; boundary=" ++ boundary) ∨
          request.contentType = some ("multipart/form-data; boundary=\"" ++ boundary ++ "\"")) →
        (∀ parts ∈ request.parts, request.partList = parts) ∧
          (request.parts = none → ¬start.AskedEarly calls →
            request.partList = contents.map Content.part) := by
  have decoded := decode_written isBoundary fits isPreamble epilogue
  refine ⟨decoded, ?_⟩
  intro start calls fresh request body contentType
  refine ⟨?_, ?_⟩
  · rintro parts given
    rw [Request.partList, Option.mem_def.mp given]
  · intro notGiven notEarly
    have read : request.contentType.bind boundary? = some boundary := by
      rcases contentType with plain | quoted
      · rw [plain, Option.bind_some, boundary?_plain isBoundary]
      · rw [quoted, Option.bind_some, boundary?_quoted isBoundary]
    rw [(Request.partList_run fresh notGiven).1 notEarly, Request.bodyParts]
    simp only [request] at read body
    simp only [read, body, decoded]
    rfl

/-- A named part whose body begins and ends like the lines around it, and an empty part. -/
def upload : List Content :=
  [⟨[("Content-Disposition", "form-data; name=\"file\"")], [0x0D, 0x0A, 0x2D, 0x2D, 0x0D]⟩,
    ⟨[], []⟩]

private theorem isBoundary_xyz : IsBoundary "xyz" :=
  ⟨⟨by decide, by decide⟩, by decide, by decide, by decide +kernel⟩

private theorem fits_upload : ∀ content ∈ upload, content.Fits "xyz" := by
  simp only [upload, List.forall_mem_cons]
  refine ⟨⟨?_, ?_, by decide +kernel⟩, ⟨nofun, nofun, by decide +kernel⟩, nofun⟩
  · simp only [List.forall_mem_cons]
    exact ⟨⟨⟨⟨by decide, by decide⟩, by decide, by decide⟩, by decide,
      by decide +kernel, by decide +kernel⟩, nofun⟩
  · decide +kernel

theorem decode_encode_upload :
    let written := toBytes "before\r\n" ++ encode "xyz" upload ++ [0x2D]
    let parts : List Part :=
      [⟨some "file", [("Content-Disposition", "form-data; name=\"file\"")],
        [0x0D, 0x0A, 0x2D, 0x2D, 0x0D]⟩, ⟨none, [], []⟩]
    let start := Request.ofMethod "POST" "/"
    let calls : List Request.Call :=
      [.withBody written, .withHeader "Content-Type" "multipart/form-data; boundary=\"xyz\""]
    IsBoundary "xyz" ∧ (∀ content ∈ upload, content.Fits "xyz") ∧
      IsPreamble "xyz" (toBytes "before\r\n") ∧ decode "xyz" written = .ok parts ∧
      (start.run (calls ++ [.askParts])).partList = parts := by
  intro written parts start calls
  have isPreamble : IsPreamble "xyz" (toBytes "before\r\n") :=
    ⟨.inr (by decide +kernel), by decide +kernel⟩
  have named : upload.map Content.part = parts := by decide +kernel
  have quoted : (start.run calls).contentType =
      some ("multipart/form-data; boundary=\"" ++ "xyz" ++ "\"") := by
    decide +kernel
  have notEarly := Request.not_askedEarly (by simp [calls]) quoted [.askParts]
  have decoded := decode_encode isBoundary_xyz fits_upload isPreamble [0x2D]
  rw [named] at decoded
  exact ⟨isBoundary_xyz, fits_upload, isPreamble, decoded.1,
    (decoded.2 start (calls ++ [.askParts]) rfl rfl (.inr quoted)).2 rfl notEarly⟩

/-- Parts that were given stand in place of those that the body holds. -/
theorem not_always_decoded :
    let request := Request.ofMethod "POST" "/"
      |>.withHeader "Content-Type" "multipart/form-data; boundary=xyz"
      |>.withBody (encode "xyz" upload)
      |>.withParts [⟨some "other", [], []⟩]
    IsBoundary "xyz" ∧ (∀ content ∈ upload, content.Fits "xyz") ∧
      request.contentType = some ("multipart/form-data; boundary=" ++ "xyz") ∧
      request.body = encode "xyz" upload ∧ request.partList ≠ upload.map Content.part := by
  intro request
  refine ⟨isBoundary_xyz, fits_upload, by decide +kernel, rfl, by decide +kernel⟩

end Multipart

end ServiceStub.Http
