import ServiceStub.Json.Basic
import ServiceStub.Decimal.Text

namespace ServiceStub.Json

def hexDigit (digit : Nat) : Char :=
  if digit < 10 then Char.ofNat (48 + digit) else Char.ofNat (87 + digit)

def escapeChar (c : Char) : List Char :=
  if c == '"' then ['\\', '"']
  else if c == '\\' then ['\\', '\\']
  else if c == '\x08' then ['\\', 'b']
  else if c == '\x0c' then ['\\', 'f']
  else if c == '\n' then ['\\', 'n']
  else if c == '\r' then ['\\', 'r']
  else if c == '\t' then ['\\', 't']
  else if c.toNat < 0x20 then
    ['\\', 'u', '0', '0', hexDigit (c.toNat / 16), hexDigit (c.toNat % 16)]
  else [c]

def quote (text : String) : List Char := '"' :: text.toList.flatMap escapeChar ++ ['"']

def numberText : JsonNumber → String
  | .integer value => toString value
  | .double value => Decimal.jsonText value

mutual

/-- The compact text of a document, in reverse, in front of what was written before. -/
def write (written : List Char) : Json → List Char
  | .null => ['l', 'l', 'u', 'n'] ++ written
  | .bool true => ['e', 'u', 'r', 't'] ++ written
  | .bool false => ['e', 's', 'l', 'a', 'f'] ++ written
  | .number value => (numberText value).toList.reverse ++ written
  | .string text => (quote text).reverse ++ written
  | .array items => ']' :: writeItems ('[' :: written) true items
  | .object members => '\x7d' :: writeMembers ('\x7b' :: written) true members

def writeItems (written : List Char) (first : Bool) : List Json → List Char
  | [] => written
  | item :: items =>
      writeItems (write (if first then written else ',' :: written) item) false items

def writeMembers (written : List Char) (first : Bool) : List (String × Json) → List Char
  | [] => written
  | (key, value) :: members =>
      let written := if first then written else ',' :: written
      writeMembers (write (':' :: (quote key).reverse ++ written) value) false members

end

def compact (document : Json) : String := String.ofList (write [] document).reverse

end ServiceStub.Json
