import ServiceStub.Http.Grammar
import ServiceStub.Text.Blank

namespace ServiceStub.Http

structure Part where
  name : Option String
  headers : Headers
  body : Bytes
  deriving Repr, DecidableEq

namespace Multipart

inductive Fault where
  | noOpeningBoundary
  | noClosingBoundary
  | noHeaderTerminator
  | malformedHeader (line : String)
  | invalidText (fault : Text.Utf8Fault)
  deriving Repr, DecidableEq

def Fault.reason : Fault → String
  | .noOpeningBoundary => "opening boundary not found"
  | .noClosingBoundary => "closing boundary not found"
  | .noHeaderTerminator => "part has no header terminator"
  | .malformedHeader line => "malformed part header: " ++ line
  | .invalidText fault => fault.message

/-- The value of a parameter that follows the main value of a header; quotes around it are
dropped. -/
def parameter? (name value : String) : Option String :=
  ((Text.splitAt (· == ';') value.toList).drop 1).findSome? fun parameter => do
    let (key, value) ← Text.splitOnce '=' parameter
    guard (Text.equalsIgnoringAsciiCase (Text.trim (String.ofList key)) name)
    let value := Text.trimBoth Text.isBlank value
    return String.ofList (Text.trimBoth (· == '"') value)

def boundary? (contentType : String) : Option String :=
  let start := (Text.trimStart Text.isBlank contentType.toList).map Text.asciiLower
  if "multipart/".toList.isPrefixOf start then parameter? "boundary" contentType else none

def splitAtFirst? (needle bytes : Bytes) : Option (Bytes × Bytes) :=
  (Text.indexOf? needle bytes).map fun position =>
    (bytes.take position, bytes.drop (position + needle.length))

def carriageReturn : UInt8 := 0x0D

def lineFeed : UInt8 := 0x0A

def skipLineBreak (bytes : Bytes) : Bytes :=
  match Text.stripStart? [carriageReturn, lineFeed] bytes with
  | some rest => rest
  | none => (Text.stripStart? [lineFeed] bytes).getD bytes

def dropLineBreak (bytes : Bytes) : Bytes :=
  match Text.stripEnd? [carriageReturn, lineFeed] bytes with
  | some rest => rest
  | none => (Text.stripEnd? [lineFeed] bytes).getD bytes

/-- The headers and the body of a part, which an empty line parts. -/
def splitHead (chunk : Bytes) : Except Fault (Bytes × Bytes) :=
  match Text.stripStart? [carriageReturn, lineFeed] chunk with
  | some body => .ok ([], body)
  | none =>
      match splitAtFirst? [carriageReturn, lineFeed, carriageReturn, lineFeed] chunk with
      | some parts => .ok parts
      | none =>
          match splitAtFirst? [lineFeed, lineFeed] chunk with
          | some parts => .ok parts
          | none => .error .noHeaderTerminator

def lines (text : String) : List (List Char) :=
  let pieces := Text.splitAt (· == '\n') text.toList
  let ended := pieces.dropLast.map fun line => (Text.stripEnd? ['\r'] line).getD line
  match pieces.getLast? with
  | none => ended
  | some [] => ended
  | some last => ended ++ [last]

def header (line : List Char) : Except Fault (String × String) :=
  match Text.splitOnce ':' line with
  | some (name, value) => .ok (Text.trim (String.ofList name), Text.trim (String.ofList value))
  | none => .error (.malformedHeader (String.ofList line))

def part (chunk : Bytes) : Except Fault Part := do
  let (head, body) ← splitHead chunk
  match Text.ofBytes? head with
  | none => throw (.invalidText (Text.firstFault head))
  | some head =>
      let lines := (lines head).filter fun line => !(Text.trimBoth Text.isBlank line).isEmpty
      let headers ← lines.mapM header
      let disposition := (Headers.values headers "content-disposition").head?
      return { name := disposition.bind (parameter? "name"), headers, body }

def parts (delimiter : Bytes) (fuel : Nat) (bytes : Bytes) : Except Fault (List Part) :=
  match fuel with
  | 0 => .error .noClosingBoundary
  | fuel + 1 =>
      if [0x2D, 0x2D].isPrefixOf bytes then .ok []
      else
        match splitAtFirst? delimiter (skipLineBreak bytes) with
        | none => .error .noClosingBoundary
        | some (chunk, rest) => do
            let first ← part (dropLineBreak chunk)
            return first :: (← parts delimiter fuel rest)

/-- The parts of a body, in order.  What stands before the first boundary and after the last
one is passed over. -/
def decode (boundary : String) (body : Bytes) : Except Fault (List Part) :=
  let delimiter := Text.toBytes ("--" ++ boundary)
  match splitAtFirst? delimiter body with
  | none => .error .noOpeningBoundary
  | some (_, rest) => parts delimiter (rest.length + 1) rest

end Multipart

end ServiceStub.Http
