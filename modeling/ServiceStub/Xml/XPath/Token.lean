import ServiceStub.Decimal.Reader
import ServiceStub.Xml.Parser

namespace ServiceStub.Xml.XPath

inductive Token where
  | symbol (text : String)
  | operatorName (text : String)
  | literal (text : String)
  | number (value : Float)
  | reference (name : String)
  | axis (name : String)
  | nodeType (name : String)
  | function (name : String)
  | name (pfx localPart : Option String)
  deriving Repr, BEq

namespace Token

/-- Symbols with their longest spellings first. -/
def symbols : List String :=
  ["<=", ">=", "!=", "::", "//", "..", "/", "(", ")", "[", "]", "@", ".", ",", "|", "+", "-",
    "=", "<", ">"]

def operatorNames : List String := ["and", "or", "mod", "div"]

def nodeTypes : List String := ["comment", "text", "processing-instruction", "node"]

/-- Whether a name or an asterisk after the token is an operator. -/
def endsOperand : Token → Bool
  | .symbol text => [")", "]", ".", ".."].contains text
  | .operatorName _ => false
  | .axis _ => false
  | _ => true

def startsWith (text : String) (rest : List Char) : Bool := text.toList.isPrefixOf rest

def localName? (text : List Char) : Option (String × List Char) :=
  match text with
  | c :: _ =>
      if isNameStart c then
        some (String.ofList (text.takeWhile isNamePart), text.dropWhile isNamePart)
      else none
  | [] => none

def qualified? (text : List Char) : Option (Option String × Option String × List Char) := do
  let (first, rest) ← localName? text
  match rest with
  | ':' :: '*' :: rest => some (some first, none, rest)
  | ':' :: rest =>
      match localName? rest with
      | some (second, rest) => some (some first, some second, rest)
      | none => some (none, some first, ':' :: rest)
  | rest => some (none, some first, rest)

def quoted? (quote : Char) (text : List Char) : Option (Token × List Char) :=
  (Text.splitOnce quote text).map fun (content, rest) => (.literal (String.ofList content), rest)

def number? (text : List Char) : Option (Token × List Char) := do
  let whole := text.takeWhile Char.isDigit
  let rest := text.dropWhile Char.isDigit
  let (fraction, rest) :=
    match rest with
    | '.' :: rest => ('.' :: rest.takeWhile Char.isDigit, rest.dropWhile Char.isDigit)
    | rest => ([], rest)
  let value ← Decimal.magnitude? (whole ++ fraction)
  return (.number value, rest)

def name? (text : List Char) : Option (Token × List Char) := do
  let (pfx, localPart, rest) ← qualified? text
  let next := rest.dropWhile isSpace
  match pfx, localPart with
  | none, some word =>
      if startsWith "::" next then some (.axis word, next.drop 2)
      else if startsWith "(" next then
        some (if nodeTypes.contains word then .nodeType word else .function word, rest)
      else some (.name none (some word), rest)
  | some pfx, some word =>
      if startsWith "(" next then some (.function (pfx ++ ":" ++ word), rest)
      else some (.name (some pfx) (some word), rest)
  | _, none => some (.name pfx none, rest)

def operatorName? (text : List Char) : Option (Token × List Char) :=
  match text with
  | '*' :: rest => some (.operatorName "*", rest)
  | _ =>
      (localName? text).bind fun (word, rest) =>
        if operatorNames.contains word then some (.operatorName word, rest) else none

/-- The token at the start of a text that begins with no blank. -/
def next? (afterOperand : Bool) (text : List Char) : Option (Token × List Char) :=
  match if afterOperand then operatorName? text else none with
  | some found => some found
  | none =>
      match text with
      | '\'' :: rest => quoted? '\'' rest
      | '"' :: rest => quoted? '"' rest
      | '*' :: rest => some (.name none none, rest)
      | '$' :: rest =>
          (qualified? rest).bind fun (pfx, localPart, rest) =>
            localPart.map fun word =>
              (.reference ((pfx.map (· ++ ":")).getD "" ++ word), rest)
      | c :: rest =>
          if c.isDigit || (c == '.' && (rest.head?.map Char.isDigit).getD false) then
            number? text
          else
            match symbols.find? fun sign => startsWith sign text with
            | some sign => some (.symbol sign, text.drop sign.length)
            | none => name? text
      | [] => none

def readAll (fuel : Nat) (afterOperand : Bool) (text : List Char) : Option (List Token) :=
  match fuel with
  | 0 => none
  | fuel + 1 =>
      match text.dropWhile isSpace with
      | [] => some []
      | text => do
          let (token, rest) ← next? afterOperand text
          return token :: (← readAll fuel token.endsOperand rest)

def ofText? (text : String) : Option (List Token) :=
  readAll (text.length + 1) false text.toList

end Token

end ServiceStub.Xml.XPath
