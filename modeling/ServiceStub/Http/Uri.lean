import ServiceStub.Http.Grammar

namespace ServiceStub.Http

def isUriChar (c : Char) : Bool := c.isAlphanum || "!#$&'()*+,-./:;=?@[]_~".contains c

def greatestUriLength : Nat := 65534

def greatestSchemeLength : Nat := 64

structure Authority where
  text : String
  deriving Repr, DecidableEq

namespace Authority

/-- What was seen of an authority on the way through it. -/
structure Scan where
  colons : Nat := 0
  opened : Bool := false
  closed : Bool := false
  percent : Bool := false
  endsInAt : Bool := false

def step (scan : Scan) (c : Char) : Option Scan :=
  let scan := { scan with endsInAt := false }
  match c with
  | ':' => if 8 ≤ scan.colons then none else some { scan with colons := scan.colons + 1 }
  | '[' => if scan.percent || scan.opened then none else some { scan with opened := true }
  | ']' =>
      if !scan.opened || scan.closed then none
      else some { scan with closed := true, colons := 0, percent := false }
  | '@' => some { scan with colons := 0, percent := false, endsInAt := true }
  | '%' => some { scan with percent := true }
  | c => if isUriChar c then some scan else none

def endsAuthority (c : Char) : Bool := c == '/' || c == '?' || c == '#'

def split? (text : List Char) : Option (List Char × List Char) := do
  let own := text.takeWhile fun c => !endsAuthority c
  let scan ← own.foldlM step {}
  guard (scan.opened == scan.closed && scan.colons ≤ 1 && !scan.endsInAt && !scan.percent)
  return (own, text.dropWhile fun c => !endsAuthority c)

def ofString? (text : String) : Option Authority := do
  let (own, rest) ← split? text.toList
  guard (!own.isEmpty && rest.isEmpty)
  return ⟨text⟩

def afterLast (separator : Char) (text : List Char) : List Char :=
  (text.reverse.takeWhile fun c => c != separator).reverse

def host (authority : Authority) : String :=
  let hostPort := afterLast '@' authority.text.toList
  match hostPort with
  | '[' :: _ => String.ofList (hostPort.takeWhile (· != ']') ++ [']'])
  | _ => String.ofList (hostPort.takeWhile (· != ':'))

/-- Digits up to the greatest port, which a plus sign may precede. -/
def portOf? (text : List Char) : Option Nat :=
  let digits := (Text.stripStart? ['+'] text).getD text
  (Text.decimal? digits).filter fun port => port ≤ 65535

def port (authority : Authority) : Option Nat :=
  let text := authority.text.toList
  if text.contains ':' then portOf? (afterLast ':' text) else none

end Authority

structure Uri where
  scheme : Option String
  authority : Option Authority
  pathAndQuery : Option String
  deriving Repr, DecidableEq

namespace Uri

def isPathChar (c : Char) : Bool :=
  let code := c.toNat
  code == 0x21 || code == 0x22 || (0x24 ≤ code && code ≤ 0x3B) || code == 0x3D ||
    (0x40 ≤ code && code ≤ 0x5F) || (0x61 ≤ code && code ≤ 0x7E) || 0x7F ≤ code

def isQueryChar (c : Char) : Bool :=
  let code := c.toNat
  code == 0x21 || (0x24 ≤ code && code ≤ 0x3B) || code == 0x3D || 0x3F ≤ code

def pathAndQuery? (text : List Char) : Option String := do
  let text := text.takeWhile (· != '#')
  guard ((text.takeWhile (· != '?')).all isPathChar)
  guard (((text.dropWhile (· != '?')).drop 1).all isQueryChar)
  return if text.isEmpty then "/" else String.ofList text

def isSchemeChar (c : Char) : Bool := c.isAlphanum || c == '+' || c == '-' || c == '.'

/-- A scheme at the start of a text and what follows it; `none` if it is too long. -/
def splitScheme? (text : List Char) : Option (Option String × List Char) :=
  let lowered := text.map Text.asciiLower
  if "http://".toList.isPrefixOf lowered then some (some "http", text.drop 7)
  else if "https://".toList.isPrefixOf lowered then some (some "https", text.drop 8)
  else
    let scheme := text.takeWhile isSchemeChar
    match Text.stripStart? "://".toList (text.drop scheme.length) with
    | some rest =>
        if 3 < text.length then
          if greatestSchemeLength < scheme.length then none
          else some (some (String.ofList scheme), rest)
        else some (none, text)
    | none => some (none, text)

def authorityOf (text : List Char) : Option Authority :=
  if text.isEmpty then none else some ⟨String.ofList text⟩

def ofString? (text : String) : Option Uri := do
  guard (!text.isEmpty && text.utf8ByteSize ≤ greatestUriLength)
  match text.toList with
  | ['*'] => return ⟨none, none, some "*"⟩
  | '/' :: _ => return ⟨none, none, some (← pathAndQuery? text.toList)⟩
  | chars =>
      let (scheme, rest) ← splitScheme? chars
      let (authority, rest) ← Authority.split? rest
      match scheme with
      | none =>
          guard rest.isEmpty
          return ⟨none, authorityOf authority, none⟩
      | some scheme =>
          guard !authority.isEmpty
          return ⟨some scheme, authorityOf authority, some (← pathAndQuery? rest)⟩

/-- The path without its query; a target that is only an authority has none. -/
def path (uri : Uri) : String :=
  match uri.pathAndQuery with
  | none => ""
  | some text =>
      match text.toList.takeWhile (· != '?') with
      | [] => "/"
      | path => String.ofList path

end Uri

end ServiceStub.Http
