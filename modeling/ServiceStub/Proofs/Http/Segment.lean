import ServiceStub.Http.Request
import ServiceStub.Proofs.Text.Utf8
import Mathlib.Data.List.TakeWhile
import Mathlib.Data.Option.Basic

/-!
Texts as segments of a path: a segment holds a text with some of its characters escaped, and is
decoded to that text.
-/

namespace ServiceStub.Http

def isSegmentChar (c : Char) : Bool := c.isAlphanum || "!$&'()*+,-.:;=@_~".toList.contains c

def escapeDigit (digit : Nat) : Char := Char.ofNat (if digit < 10 then 48 + digit else 55 + digit)

def escapeByte (byte : UInt8) : List Char :=
  ['%', escapeDigit (byte.toNat / 16), escapeDigit (byte.toNat % 16)]

def encodeChar (kept : Char → Bool) (c : Char) : List Char :=
  if kept c then [c] else (String.utf8EncodeChar c).flatMap escapeByte

def encodeSegment (kept : Char → Bool) (text : String) : String :=
  String.ofList (text.toList.flatMap (encodeChar kept))

variable {kept : Char → Bool} {text : String} {c : Char}

private theorem isSegmentChar_escapeDigit :
    ∀ digit < 16, isSegmentChar (escapeDigit digit) := by decide

private theorem toNat_lt_of_isSegmentChar (plain : isSegmentChar c) : c.toNat < 128 := by
  have signs : "!$&'()*+,-.:;=@_~".toList.all (·.toNat < 128) := by decide
  rw [isSegmentChar, Bool.or_eq_true, List.contains_iff_mem] at plain
  rcases plain with alphanumeric | listed
  · change (decide ('A'.val ≤ c.val ∧ c.val ≤ 'Z'.val) || ('a'.val ≤ c.val && c.val ≤ 'z'.val) ||
      ('0'.val ≤ c.val && c.val ≤ '9'.val)) = true at alphanumeric
    simp only [Bool.or_eq_true, Bool.and_eq_true, decide_eq_true_eq, UInt32.le_iff_toNat_le]
      at alphanumeric
    have last : 'Z'.val.toNat = 90 ∧ 'z'.val.toNat = 122 ∧ '9'.val.toNat = 57 := by decide
    change c.val.toNat < 128
    omega
  · exact of_decide_eq_true (List.all_eq_true.mp signs c listed)

theorem isPathChar_of_isSegmentChar (plain : isSegmentChar c) : Uri.isPathChar c := by
  have ascii : ∀ code < 128,
      isSegmentChar (Char.ofNat code) → Uri.isPathChar (Char.ofNat code) := by
    decide +kernel
  have escaped := ascii c.toNat (toNat_lt_of_isSegmentChar plain)
  rw [Char.ofNat_toNat] at escaped
  exact escaped plain

private theorem mem_escapeByte {byte : UInt8} (member : c ∈ escapeByte byte) :
    isSegmentChar c ∨ c = '%' := by
  have bound : byte.toNat < 256 := byte.toNat_lt
  simp only [escapeByte, List.mem_cons, List.not_mem_nil, or_false] at member
  rcases member with rfl | rfl | rfl
  · exact .inr rfl
  · exact .inl (isSegmentChar_escapeDigit _ (by omega))
  · exact .inl (isSegmentChar_escapeDigit _ (by omega))

theorem mem_encodeSegment (plain : ∀ c, kept c → isSegmentChar c)
    (member : c ∈ (encodeSegment kept text).toList) : isSegmentChar c ∨ c = '%' := by
  rw [encodeSegment, String.toList_ofList] at member
  obtain ⟨source, -, member⟩ := List.mem_flatMap.mp member
  rw [encodeChar] at member
  split at member
  · next stays => exact .inl (List.mem_singleton.mp member ▸ plain source stays)
  · obtain ⟨byte, -, member⟩ := List.mem_flatMap.mp member
    exact mem_escapeByte member

private theorem length_encodeChar (kept : Char → Bool) (c : Char) :
    (if kept c then 1 else 3) ≤ (encodeChar kept c).length := by
  rw [encodeChar]
  split
  · exact Nat.le_refl 1
  · have present : String.utf8EncodeChar c ≠ [] := String.utf8EncodeChar_ne_nil
    obtain ⟨byte, bytes, encoded⟩ := List.exists_cons_of_ne_nil present
    rw [encoded, List.flatMap_cons, List.length_append]
    exact Nat.le_add_right 3 _

private theorem length_flatMap_encodeChar (kept : Char → Bool) (chars : List Char) :
    chars.length + 2 * chars.countP (!kept ·) ≤ (chars.flatMap (encodeChar kept)).length := by
  induction chars with
  | nil => exact Nat.le_refl 0
  | cons c chars induction =>
      have first := length_encodeChar kept c
      rw [List.flatMap_cons, List.length_append, List.length_cons, List.countP_cons]
      cases stays : kept c with
      | true =>
          simp only [stays, if_true, Bool.not_true, Bool.false_eq_true, if_false] at first ⊢
          omega
      | false =>
          simp only [stays, if_true, Bool.not_false, Bool.false_eq_true, if_false] at first ⊢
          omega

/-- Only a text without characters to escape is its own segment. -/
theorem encodeSegment_eq_self_iff : encodeSegment kept text = text ↔ ∀ c ∈ text.toList, kept c := by
  rw [← String.toList_inj, encodeSegment, String.toList_ofList]
  constructor
  · -- An escape is longer than what it stands for.
    intro same c member
    have length := length_flatMap_encodeChar kept text.toList
    rw [same] at length
    have none : text.toList.countP (!kept ·) = 0 := by omega
    simpa using List.countP_eq_zero.mp none c member
  · generalize text.toList = chars
    intro stays
    induction chars with
    | nil => rfl
    | cons c chars induction =>
        obtain ⟨first, others⟩ := List.forall_mem_cons.mp stays
        rw [List.flatMap_cons, encodeChar, if_pos first, induction others, List.singleton_append]

private theorem percentDecode_cons {byte : UInt8} (plain : byte ≠ 0x25) (rest : Bytes) :
    Form.percentDecode (byte :: rest) = byte :: Form.percentDecode rest := by
  rw [Form.percentDecode]
  exact fun _ _ _ same => absurd same plain

private theorem encode_escapeDigit : ∀ digit < 16,
    String.utf8EncodeChar (escapeDigit digit) = [UInt8.ofNat (escapeDigit digit).toNat] ∧
      Text.hexDigit? (Char.ofNat (UInt8.ofNat (escapeDigit digit).toNat).toNat) = some digit := by
  decide

private theorem percentDecode_escapeByte (byte : UInt8) (rest : Bytes) :
    Form.percentDecode ((escapeByte byte).flatMap String.utf8EncodeChar ++ rest) =
      byte :: Form.percentDecode rest := by
  have bound : byte.toNat < 256 := byte.toNat_lt
  obtain ⟨highBytes, high⟩ := encode_escapeDigit (byte.toNat / 16) (by omega)
  obtain ⟨lowBytes, low⟩ := encode_escapeDigit (byte.toNat % 16) (by omega)
  have decoded : Form.hexByte? (UInt8.ofNat (escapeDigit (byte.toNat / 16)).toNat)
      (UInt8.ofNat (escapeDigit (byte.toNat % 16)).toNat) = some byte := by
    rw [Form.hexByte?, high, low]
    simp only [Option.bind_eq_bind, Option.bind_some, Option.pure_def, Nat.div_add_mod',
      UInt8.ofNat_toNat]
  have percent : String.utf8EncodeChar '%' = [0x25] := by decide
  rw [escapeByte, List.flatMap_cons, List.flatMap_cons, List.flatMap_cons, percent, highBytes,
    lowBytes]
  change Form.percentDecode (0x25 :: _ :: _ :: rest) = _
  rw [Form.percentDecode, decoded]

private theorem utf8EncodeChar_segmentChar (plain : isSegmentChar c) :
    ∃ byte, String.utf8EncodeChar c = [byte] ∧ byte ≠ 0x25 := by
  have small : c.val.toNat ≤ 0x7F := Nat.le_of_lt_succ (toNat_lt_of_isSegmentChar plain)
  have encoded : String.utf8EncodeChar c = [UInt8.ofNat c.val.toNat] := by
    rw [String.utf8EncodeChar, if_pos small]
  refine ⟨_, encoded, ?_⟩
  intro same
  have member : 0x25 ∈ String.utf8EncodeChar c := by
    rw [encoded, same]
    exact List.mem_singleton_self _
  rw [← Char.ofNat_toNat c, Text.toNat_of_mem_utf8EncodeChar (by decide) member] at plain
  exact absurd plain (by decide)

private theorem percentDecode_encodeChar (plain : ∀ c, kept c → isSegmentChar c) (c : Char)
    (rest : Bytes) :
    Form.percentDecode ((encodeChar kept c).flatMap String.utf8EncodeChar ++ rest) =
      String.utf8EncodeChar c ++ Form.percentDecode rest := by
  rw [encodeChar]
  split
  · next stays =>
      obtain ⟨byte, encoded, different⟩ := utf8EncodeChar_segmentChar (plain c stays)
      rw [List.flatMap_cons, List.flatMap_nil, List.append_nil, encoded, List.singleton_append,
        List.singleton_append, percentDecode_cons different]
  · induction String.utf8EncodeChar c with
    | nil => rfl
    | cons byte bytes induction =>
        rw [List.flatMap_cons, List.flatMap_append, List.append_assoc, percentDecode_escapeByte,
          induction, List.cons_append]

theorem percentDecode_encodeSegment (plain : ∀ c, kept c → isSegmentChar c) (text : String) :
    Form.percentDecode (Text.toBytes (encodeSegment kept text)) = Text.toBytes text := by
  rw [encodeSegment, Text.toBytes_ofList, Text.toBytes_eq]
  induction text.toList with
  | nil => rfl
  | cons c chars induction =>
      rw [List.flatMap_cons, List.flatMap_append, percentDecode_encodeChar plain, induction,
        List.flatMap_cons]

namespace Uri

private theorem ne_of_isPathChar {sign : Char} (isSign : isPathChar sign = false)
    (plain : isPathChar c) :
    (c != sign) = true := by
  rw [bne_iff_ne]
  rintro rfl
  exact absurd plain (Bool.eq_false_iff.mp isSign)

private theorem takeWhile_path {sign : Char} (isSign : isPathChar sign = false) {chars : List Char}
    (plain : ∀ c ∈ chars, isPathChar c) : chars.takeWhile (· != sign) = chars :=
  List.takeWhile_eq_self_iff.mpr fun c member => ne_of_isPathChar isSign (plain c member)

private theorem pathAndQuery?_path {chars : List Char} (present : chars ≠ [])
    (plain : ∀ c ∈ chars, isPathChar c) : pathAndQuery? chars = some (String.ofList chars) := by
  have noFragment : chars.takeWhile (· != '#') = chars := takeWhile_path rfl plain
  have path : chars.takeWhile (· != '?') = chars := takeWhile_path rfl plain
  have noQuery : chars.dropWhile (· != '?') = [] :=
    List.dropWhile_eq_nil_iff.mpr fun c member => ne_of_isPathChar rfl (plain c member)
  have allPlain : chars.all isPathChar = true := List.all_eq_true.mpr plain
  simp [pathAndQuery?, noFragment, path, noQuery, allPlain, present, guard]

private theorem ofString?_path {rest : List Char} (starts : text.toList = '/' :: rest)
    (plain : ∀ c ∈ text.toList, isPathChar c) :
    ofString? text =
      if text.utf8ByteSize ≤ greatestUriLength then some ⟨none, none, some text⟩ else none := by
  have present : text.isEmpty = false := by
    rw [Bool.eq_false_iff, ne_eq, String.isEmpty_iff]
    rintro rfl
    cases starts
  have read : pathAndQuery? ('/' :: rest) = some text := by
    rw [← starts, pathAndQuery?_path (starts ▸ List.cons_ne_nil _ _) plain, String.ofList_toList]
  by_cases fits : text.utf8ByteSize ≤ greatestUriLength
  · have short : (!text.isEmpty && text.utf8ByteSize ≤ greatestUriLength) = true := by
      simp [present, fits]
    rw [ofString?, guard, if_pos short, if_pos fits, starts]
    simp [read]
  · have long : ¬(!text.isEmpty && text.utf8ByteSize ≤ greatestUriLength) = true := by
      simp [present, fits]
    rw [ofString?, guard, if_neg long, if_neg fits]
    rfl

theorem path_of_path {rest : List Char} (starts : text.toList = '/' :: rest)
    (plain : ∀ c ∈ text.toList, isPathChar c) {uri : Uri} (read : ofString? text = some uri) :
    uri.path = text := by
  rw [ofString?_path starts plain] at read
  split at read
  · cases read
    have whole : text.toList.takeWhile (· != '?') = '/' :: rest :=
      (takeWhile_path rfl plain).trans starts
    simp only [path, whole]
    rw [← starts, String.ofList_toList]
  · cases read

end Uri

theorem Incoming.ofParts?_eq_some {method uri : String} {headers : Headers} {body : Bytes}
    {incoming : Incoming} (made : ofParts? method uri headers body = some incoming) :
    incoming.method = method ∧ Uri.ofString? uri = some incoming.uri ∧ incoming.body = body := by
  simp only [ofParts?, Option.bind_eq_bind, Option.bind_eq_some_iff] at made
  obtain ⟨-, -, target, read, -, -, same⟩ := made
  cases same
  exact ⟨rfl, read, rfl⟩

end ServiceStub.Http
