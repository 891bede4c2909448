import ServiceStub.Text.Chars
import ServiceStub.Xml.Document

namespace ServiceStub.Xml

abbrev Reader := StateT (List Char) Option

def isSpace (c : Char) : Bool := c == ' ' || c == '\t' || c == '\n' || c == '\r'

def nameStartRanges : List (Nat × Nat) :=
  [(0x41, 0x5A), (0x5F, 0x5F), (0x61, 0x7A), (0xC0, 0xD6), (0xD8, 0xF6), (0xF8, 0x2FF),
    (0x370, 0x37D), (0x37F, 0x1FFF), (0x200C, 0x200D), (0x2070, 0x218F), (0x2C00, 0x2FEF),
    (0x3001, 0xD7FF), (0xF900, 0xFDCF), (0xFDF0, 0xFFFD), (0x10000, 0xEFFFF)]

def namePartRanges : List (Nat × Nat) :=
  [(0x2D, 0x2E), (0x30, 0x39), (0xB7, 0xB7), (0x300, 0x36F), (0x203F, 0x2040)]

def inRanges (ranges : List (Nat × Nat)) (c : Char) : Bool :=
  ranges.any fun (first, last) => first ≤ c.toNat && c.toNat ≤ last

def isNameStart (c : Char) : Bool := inRanges nameStartRanges c

def isNamePart (c : Char) : Bool := isNameStart c || inRanges namePartRanges c

structure WrittenName where
  pfx : Option String
  localPart : String
  deriving DecidableEq

/-- A node whose prefixes are not yet resolved. -/
inductive WrittenTree where
  | element (name : WrittenName) (attributes : List (WrittenName × String))
      (children : List WrittenTree)
  | text (content : String)
  | comment (content : String)
  | instruction (target content : String)

namespace Reader

def accept (text : String) : Reader Bool := do
  match Text.stripStart? text.toList (← get) with
  | some rest => set rest; return true
  | none => return false

def expect (text : String) : Reader Unit := do guard (← accept text)

def takeWhile (wanted : Char → Bool) : Reader (List Char) := do
  let text ← get
  set (text.dropWhile wanted)
  return text.takeWhile wanted

def skipSpace : Reader Unit := do let _ ← takeWhile isSpace

def space : Reader Unit := do guard !(← takeWhile isSpace).isEmpty

def name : Reader String := do
  match ← get with
  | c :: _ =>
      guard (isNameStart c)
      return String.ofList (← takeWhile isNamePart)
  | [] => failure

def qualifiedName : Reader WrittenName := do
  let first ← name
  match ← get with
  | ':' :: c :: _ =>
      if isNameStart c then
        expect ":"
        return ⟨some first, ← name⟩
      else return ⟨none, first⟩
  | _ => return ⟨none, first⟩

def upTo (delimiter : String) : Reader String := do
  let text ← get
  let position ← Text.indexOf? delimiter.toList text
  set (text.drop (position + delimiter.length))
  return String.ofList (text.take position)

def scalar? (code : Nat) : Option Char :=
  if code < 0xD800 || (0xDFFF < code && code ≤ 0x10FFFF) then some (Char.ofNat code) else none

/-- A reference to a character or to one of the five named entities. -/
def reference : Reader Char := do
  expect "&"
  let body := (← upTo ";").toList
  match body with
  | '#' :: 'x' :: digits => scalar? (← Text.hexadecimal? digits)
  | '#' :: digits => scalar? (← Text.decimal? digits)
  | _ =>
      match String.ofList body with
      | "amp" => return '&'
      | "lt" => return '<'
      | "gt" => return '>'
      | "quot" => return '"'
      | "apos" => return '\''
      | _ => failure

def valueTail (fuel : Nat) (quote : Char) : Reader (List Char) :=
  match fuel with
  | 0 => failure
  | fuel + 1 => do
      match ← get with
      | [] => failure
      | '&' :: _ => return (← reference) :: (← valueTail fuel quote)
      | c :: rest =>
          guard (c != '<')
          set rest
          if c == quote then return [] else return c :: (← valueTail fuel quote)

def quotedValue : Reader String := do
  match ← get with
  | c :: rest =>
      guard (c == '"' || c == '\'')
      set rest
      return String.ofList (← valueTail (rest.length + 1) c)
  | [] => failure

def equals : Reader Unit := do
  skipSpace
  expect "="
  skipSpace

def attributes (fuel : Nat) : Reader (List (WrittenName × String)) :=
  match fuel with
  | 0 => failure
  | fuel + 1 => do
      let start ← get
      skipSpace
      let afterSpace ← get
      match afterSpace with
      | c :: _ =>
          if isNameStart c && afterSpace.length < start.length then
            let name ← qualifiedName
            equals
            let value ← quotedValue
            return (name, value) :: (← attributes fuel)
          else return []
      | [] => return []

def comment : Reader WrittenTree := do
  expect "<!--"
  let content ← upTo "--"
  expect ">"
  return .comment content

def instruction : Reader WrittenTree := do
  expect "<?"
  let target ← name
  guard (!Text.equalsIgnoringAsciiCase target "xml")
  if ← accept "?>" then return .instruction target ""
  else
    space
    return .instruction target (← upTo "?>")

def characterData : Reader WrittenTree := do
  let text ← get
  let content := text.takeWhile fun c => c != '<' && c != '&'
  guard (!content.isEmpty && (Text.indexOf? "]]>".toList content).isNone)
  set (text.drop content.length)
  return .text (String.ofList content)

def markedText : Reader WrittenTree := do
  expect "<![CDATA["
  return .text (← upTo "]]>")

mutual

def element (fuel : Nat) : Reader WrittenTree :=
  match fuel with
  | 0 => failure
  | fuel + 1 => do
      expect "<"
      let name ← qualifiedName
      let attributes ← attributes ((← get).length + 1)
      if ← accept "/>" then return .element name attributes []
      else
        expect ">"
        let children ← content fuel
        expect "</"
        let closing ← qualifiedName
        guard (closing = name)
        skipSpace
        expect ">"
        return .element name attributes children

def content (fuel : Nat) : Reader (List WrittenTree) :=
  match fuel with
  | 0 => failure
  | fuel + 1 => do
      match ← get with
      | '<' :: '/' :: _ => return []
      | '<' :: '!' :: '[' :: _ =>
          let node ← markedText
          return node :: (← content fuel)
      | '<' :: '!' :: _ =>
          let node ← comment
          return node :: (← content fuel)
      | '<' :: '?' :: _ =>
          let node ← instruction
          return node :: (← content fuel)
      | '<' :: _ =>
          let node ← element fuel
          return node :: (← content fuel)
      | '&' :: _ =>
          let c ← reference
          return .text (String.singleton c) :: (← content fuel)
      | _ =>
          let node ← characterData
          return node :: (← content fuel)

end

def miscellany (fuel : Nat) : Reader (List WrittenTree) :=
  match fuel with
  | 0 => failure
  | fuel + 1 => do
      skipSpace
      match ← get with
      | '<' :: '!' :: '-' :: _ =>
          let node ← comment
          return node :: (← miscellany fuel)
      | '<' :: '?' :: _ =>
          let node ← instruction
          return node :: (← miscellany fuel)
      | _ => return []

def plainQuoted : Reader String := do
  if ← accept "\"" then upTo "\""
  else
    expect "'"
    upTo "'"

def declarationPart (keyword : String) : Reader (Option String) := do
  let start ← get
  skipSpace
  if (← get).length < start.length && (← accept keyword) then
    equals
    return some (← plainQuoted)
  else
    set start
    return none

def declaration : Reader Unit := do
  match Text.stripStart? "<?xml".toList (← get) with
  | some (c :: rest) =>
      if isSpace c then
        set (c :: rest)
        let version ← declarationPart "version"
        guard version.isSome
        let _ ← declarationPart "encoding"
        match ← declarationPart "standalone" with
        | some value => guard (value == "yes" || value == "no")
        | none => pure ()
        skipSpace
        expect "?>"
  | _ => return ()

def elementTypes (fuel : Nat) : Reader Unit :=
  match fuel with
  | 0 => failure
  | fuel + 1 => do
      skipSpace
      if ← accept "]" then return ()
      else
        expect "<!ELEMENT"
        space
        let _ ← name
        space
        let _ ← upTo ">"
        elementTypes fuel

def documentType : Reader Unit := do
  if ← accept "<!DOCTYPE" then
    space
    let _ ← name
    skipSpace
    if ← accept "SYSTEM" then
      space
      let _ ← plainQuoted
    else if ← accept "PUBLIC" then
      space
      let _ ← plainQuoted
      space
      let _ ← plainQuoted
    else
      expect "["
      elementTypes ((← get).length + 1)
    skipSpace
    expect ">"

def document : Reader (List WrittenTree) := do
  declaration
  let size := (← get).length + 2
  let before ← miscellany size
  documentType
  let between ← miscellany size
  match ← get with
  | [] => return before ++ between
  | _ =>
      let main ← element (2 * size)
      let after ← miscellany size
      guard (← get).isEmpty
      return before ++ between ++ main :: after

end Reader

def builtInScope : List (String × String) :=
  [("xml", "http://www.w3.org/XML/1998/namespace")]

def declarationsOf (attributes : List (WrittenName × String)) : List (String × String) :=
  attributes.filterMap fun (name, value) =>
    match name.pfx, name.localPart with
    | some "xmlns", pfx => some (pfx, value)
    | none, "xmlns" => some ("", value)
    | _, _ => none

def resolveName (scope : List (String × String)) (name : WrittenName) (isElement : Bool) :
    Option Name :=
  match name.pfx with
  | some pfx =>
      (scope.lookup pfx).map fun uri =>
        ⟨some uri, name.localPart, pfx ++ ":" ++ name.localPart⟩
  | none =>
      let uri := if isElement then (scope.lookup "").filter (!·.isEmpty) else none
      some ⟨uri, name.localPart, name.localPart⟩

def isDeclaration (name : WrittenName) : Bool :=
  name.pfx == some "xmlns" || (name.pfx.isNone && name.localPart == "xmlns")

mutual

/-- Replace prefixes by namespaces; every prefix must be declared. -/
def resolve (scope : List (String × String)) : WrittenTree → Option Tree
  | .element name attributes children => do
      guard (attributes.map Prod.fst).Nodup
      let declarations := declarationsOf attributes
      let scope := declarations ++ scope
      let resolved ← resolveName scope name true
      let plain := attributes.filter fun held => !isDeclaration held.1
      let attributes ← plain.mapM fun (name, value) => do
        return Attribute.mk (← resolveName scope name false) value
      return .element resolved declarations attributes (← resolveAll scope children)
  | .text content => some (.text content)
  | .comment content => some (.comment content)
  | .instruction target content => some (.instruction target content)

def resolveAll (scope : List (String × String)) : List WrittenTree → Option (List Tree)
  | [] => some []
  | tree :: trees => do
      let first ← resolve scope tree
      return first :: (← resolveAll scope trees)

end

def parse (text : String) : Option Document := do
  let (written, _) ← Reader.document.run text.toList
  return Document.ofTrees (← resolveAll builtInScope written)

end ServiceStub.Xml
