import ServiceStub.Text.CaseTable

namespace ServiceStub.Text

def mappedBy? (rows : List (Nat × Nat × Nat × Int)) (code : Nat) : Option Nat :=
  (rows.find? fun (first, last, step, _) =>
    first ≤ code && code ≤ last && (code - first) % step == 0).map
      fun (_, _, _, shift) => ((code : Int) + shift).toNat

/-- The lower case of a character, which is one character except for `İ`. -/
def lowerChar (c : Char) : List Char :=
  if c.toNat < 0x80 then [asciiLower c]
  else if c.toNat == 0x130 then ['i', '\u0307']
  else
    match mappedBy? lowerRows c.toNat with
    | some code => [Char.ofNat code]
    | none => [c]

def upperChar (c : Char) : List Char :=
  if c.toNat < 0x80 then
    [if 'a' ≤ c && c ≤ 'z' then Char.ofNat (c.toNat - 32) else c]
  else
    match upperSequences.lookup c.toNat with
    | some codes => codes.map Char.ofNat
    | none =>
        match mappedBy? upperRows c.toNat with
        | some code => [Char.ofNat code]
        | none => [c]

def meetsCased (chars : List Char) : Bool :=
  match chars.dropWhile (fun c => caseIgnorable.contains c.toNat) with
  | [] => false
  | c :: _ => cased.contains c.toNat

/-- Lower case, given the characters before in reverse.  A capital sigma at the end of a word
becomes the final small one. -/
def lowerChars (before : List Char) : List Char → List Char
  | [] => []
  | c :: rest =>
      let lowered :=
        if c == 'Σ' then
          [if meetsCased before && !meetsCased rest then 'ς' else 'σ']
        else lowerChar c
      lowered ++ lowerChars (c :: before) rest

def lower (text : String) : String := String.ofList (lowerChars [] text.toList)

def upper (text : String) : String := String.ofList (text.toList.flatMap upperChar)

end ServiceStub.Text
