import ServiceStub.Regex.Syntax
import ServiceStub.Text.Blank

/-!
Reading regular expressions.  A parsed expression carries its nesting depth, so that too deep
ones can be refused.
-/

namespace ServiceStub.Regex

structure Cursor where
  rest : List Char
  flags : Flags
  names : List (List Char)

abbrev Parser := StateT Cursor Option

/-- An expression and how deep its parts are nested. -/
structure Nested where
  expr : Expr
  depth : Nat

inductive Primitive where
  | literal (c : Char) (isByte : Bool)
  | perlClass (letter : Char)
  | unicodeClass (negated : Bool) (set : CharSet)
  | assertion (assertion : Assertion)

namespace Parser

def rest : Parser (List Char) := return (← get).rest

def setRest (rest : List Char) : Parser Unit := modify fun cursor => { cursor with rest }

def flags : Parser Flags := return (← get).flags

def setFlags (flags : Flags) : Parser Unit := modify fun cursor => { cursor with flags }

def peek : Parser Char := do
  match ← rest with
  | c :: _ => return c
  | [] => failure

def advance : Parser Unit := do setRest (← rest).tail

def afterComment : List Char → List Char
  | [] => []
  | c :: rest => if c == '\n' then rest else afterComment rest

def withoutSpace (bound : Nat) (text : List Char) : List Char :=
  match bound, text with
  | 0, text => text
  | _, [] => []
  | bound + 1, c :: rest =>
      if Text.isBlank c then withoutSpace bound rest
      else if c == '#' then withoutSpace bound (afterComment rest)
      else c :: rest

def skipSpace : Parser Unit := do
  if (← flags).verbose then
    let text ← rest
    setRest (withoutSpace text.length text)

def advanceSpaced : Parser Unit := do
  advance
  skipSpace

def accept (text : String) : Parser Bool := do
  match Text.stripStart? text.toList (← rest) with
  | some rest => setRest rest; return true
  | none => return false

def expect (c : Char) : Parser Unit := do
  if (← peek) == c then advance else failure

def isMeta (c : Char) : Bool := "\\.+*?()|[]\x7b\x7d^$#&-~".contains c

def isEscapable (c : Char) : Bool :=
  isMeta c || (c.toNat < 0x80 && !c.isAlphanum && c != '<' && c != '>')

def scalar? (code : Nat) : Option Char :=
  if code < 0xD800 || (0xDFFF < code && code ≤ 0x10FFFF) then some (Char.ofNat code) else none

def hexDigits (count : Nat) : Parser (List Char) :=
  match count with
  | 0 => return []
  | count + 1 => do
      let c ← peek
      guard (Text.hexDigit? c).isSome
      advanceSpaced
      return c :: (← hexDigits count)

def bracedDigits (bound : Nat) : Parser (List Char) :=
  match bound with
  | 0 => failure
  | bound + 1 => do
      let c ← peek
      if c == '\x7d' then
        advanceSpaced
        return []
      else
        guard (Text.hexDigit? c).isSome
        advanceSpaced
        return c :: (← bracedDigits bound)

def hexEscape (letter : Char) : Parser Primitive := do
  advanceSpaced
  if (← peek) == '\x7b' then
    advanceSpaced
    let digits ← bracedDigits ((← rest).length + 1)
    let code ← Text.hexadecimal? digits
    let c ← scalar? code
    return .literal c false
  else
    let count := if letter == 'x' then 2 else if letter == 'u' then 4 else 8
    let digits ← hexDigits count
    let code ← Text.hexadecimal? digits
    let c ← scalar? code
    return .literal c (letter == 'x')

def takeUpTo (bound : Nat) (close : Char) : Parser (List Char) :=
  match bound with
  | 0 => failure
  | bound + 1 => do
      let c ← peek
      if c == close then return []
      else
        advanceSpaced
        return c :: (← takeUpTo bound close)

def unicodeEscape (negated : Bool) : Parser Primitive := do
  advanceSpaced
  let c ← peek
  let set? ←
    if c == '\x7b' then do
      advanceSpaced
      let name ← takeUpTo ((← rest).length + 1) '\x7d'
      advance
      match Text.indexOf? ['!', '='] name with
      | some position => pure (valuedSet? (name.take position) (name.drop (position + 2)))
      | none =>
          match Text.splitOnce ':' name with
          | some (property, value) => pure (valuedSet? property value)
          | none =>
              match Text.splitOnce '=' name with
              | some (property, value) => pure (valuedSet? property value)
              | none => pure (namedSet? name)
    else do
      guard (c != '\\')
      advanceSpaced
      pure (namedSet? [c])
  guard (← flags).unicode
  let set ← set?
  return .unicodeClass negated set

def boundaryEscape : Parser Primitive := do
  let basic := !(← flags).unicode
  let start ← rest
  match start with
  | '\x7b' :: _ =>
      advanceSpaced
      let first ← peek
      let isNameChar (c : Char) : Bool := c.isAlpha || c == '-'
      if !isNameChar first then
        setRest start
        return .assertion (.wordBoundary basic)
      else
        let text ← rest
        let name := text.takeWhile isNameChar
        setRest (text.dropWhile isNameChar)
        expect '\x7d'
        match String.ofList name with
        | "start" => return .assertion (.wordStart basic)
        | "end" => return .assertion (.wordEnd basic)
        | "start-half" => return .assertion (.wordStartHalf basic)
        | "end-half" => return .assertion (.wordEndHalf basic)
        | _ => failure
  | _ => return .assertion (.wordBoundary basic)

def escape : Parser Primitive := do
  advance
  let c ← peek
  if c.isDigit then failure
  else if c == 'x' || c == 'u' || c == 'U' then hexEscape c
  else if c == 'p' || c == 'P' then unicodeEscape (c == 'P')
  else if "dswDSW".contains c then
    advance
    return .perlClass c
  else
    advance
    let basic := !(← flags).unicode
    if isEscapable c then return .literal c false
    else
      match c with
      | 'a' => return .literal '\x07' false
      | 'f' => return .literal '\x0c' false
      | 't' => return .literal '\t' false
      | 'n' => return .literal '\n' false
      | 'r' => return .literal '\r' false
      | 'v' => return .literal '\x0b' false
      | 'A' => return .assertion .textStart
      | 'z' => return .assertion .textEnd
      | 'B' => return .assertion (.noWordBoundary basic)
      | '<' => return .assertion (.wordStart basic)
      | '>' => return .assertion (.wordEnd basic)
      | 'b' => boundaryEscape
      | _ => failure

def foldIfAsked (set : CharSet) : Parser CharSet := do
  let flags ← flags
  return if flags.ignoreCase then .folded set flags.unicode else set

def negateIf (negated : Bool) (set : CharSet) : CharSet :=
  if negated then .complement set else set

/-- A character on its own; without Unicode a byte beyond the basic ones is no text, and no other
character has a case. -/
def literalSet (c : Char) (isByte : Bool) : Parser CharSet := do
  let flags ← flags
  guard (flags.unicode || c.toNat < 0x80 || !(isByte || flags.ignoreCase))
  foldIfAsked (.single c)

def perlSet (letter : Char) : Parser CharSet := do
  let unicode := (← flags).unicode
  let negated := letter.isUpper
  guard (unicode || !negated)
  let set :=
    match letter.toLower with
    | 'd' => if unicode then digitSet else basicDigitSet
    | 's' => if unicode then spaceSet else basicSpaceSet
    | _ => if unicode then wordSet else basicWordSet
  return negateIf negated set

def unicodeSet (negated : Bool) (set : CharSet) : Parser CharSet :=
  return negateIf negated (← foldIfAsked set)

def rangeEnd : Primitive → Parser Char
  | .literal c _ => do
      guard ((← flags).unicode || c.toNat < 0x80)
      return c
  | _ => failure

def itemSet (item : Primitive) : Parser CharSet :=
  match item with
  | .literal _ _ => return .single (← rangeEnd item)
  | .perlClass letter => perlSet letter
  | .unicodeClass negated set => unicodeSet negated set
  | .assertion _ => failure

def setItem : Parser Primitive := do
  let c ← peek
  if c == '\\' then escape
  else
    advance
    return .literal c false

def peekSpaced : Parser (Option Char) := do
  let text := (← rest).tail
  let text := if (← flags).verbose then withoutSpace text.length text else text
  return text.head?

def setRange : Parser CharSet := do
  let first ← setItem
  skipSpace
  let next ← peek
  let beyond ← peekSpaced
  if next != '-' || beyond == some ']' || beyond == some '-' then itemSet first
  else
    advanceSpaced
    let _ ← peek
    let last ← setItem
    let first ← rangeEnd first
    let last ← rangeEnd last
    guard (first ≤ last)
    return .range first.toNat last.toNat

def bracketClass? : Parser (Option CharSet) := do
  let start ← rest
  match Text.stripStart? ['[', ':'] start with
  | none => return none
  | some text =>
      let (negated, text) :=
        match text with
        | '^' :: text => (true, text)
        | text => (false, text)
      let name := text.takeWhile (· != ':')
      match Text.stripStart? [':', ']'] (text.dropWhile (· != ':')),
          bracketClasses.lookup (String.ofList name) with
      | some text, some set =>
          setRest text
          return some (negateIf negated (← foldIfAsked set))
      | _, _ => return none

inductive SetOperator where
  | intersection
  | difference
  | symmetricDifference

/-- The set in brackets as far as it is read: an operand awaiting its operator's right side,
and the items of the current operand. -/
structure SetFrame where
  pending : Option (CharSet × Nat × SetOperator)
  items : List CharSet
  depth : Nat
  count : Nat

namespace SetFrame

def operand (frame : SetFrame) : CharSet × Nat :=
  (.unionOf frame.items, if frame.count ≤ 1 then frame.depth else frame.depth + 1)

def add (frame : SetFrame) (set : CharSet) (depth : Nat) : SetFrame :=
  { frame with items := set :: frame.items, depth := max depth frame.depth,
               count := frame.count + 1 }

end SetFrame

def close (frame : SetFrame) : Parser (CharSet × Nat) := do
  let (right, rightDepth) := frame.operand
  match frame.pending with
  | none => return (right, rightDepth)
  | some (left, leftDepth, operator) =>
      let left ← foldIfAsked left
      let right ← foldIfAsked right
      let set :=
        match operator with
        | .intersection => CharSet.intersection left right
        | .difference => .difference left right
        | .symmetricDifference => .symmetricDifference left right
      return (set, max leftDepth rightDepth + 1)

/-- The leading hyphens of a set, which stand for themselves. -/
def leadingHyphens (bound : Nat) (frame : SetFrame) : Parser SetFrame :=
  match bound with
  | 0 => return frame
  | bound + 1 => do
      if (← peek) == '-' then
        advanceSpaced
        let _ ← peek
        leadingHyphens bound (frame.add (.single '-') 0)
      else return frame

mutual

def bracketed (fuel : Nat) : Parser (CharSet × Nat) :=
  match fuel with
  | 0 => failure
  | fuel + 1 => do
      advanceSpaced
      let negated := (← peek) == '^'
      if negated then advanceSpaced
      let frame ← leadingHyphens ((← rest).length + 1) ⟨none, [], 0, 0⟩
      let frame ←
        if frame.count == 0 && (← peek) == ']' then do
          advanceSpaced
          let _ ← peek
          pure (frame.add (.single ']') 0)
        else pure frame
      let (set, depth) ← bracketedTail fuel frame
      return (negateIf negated (← foldIfAsked set), depth + 1)

def bracketedTail (fuel : Nat) (frame : SetFrame) : Parser (CharSet × Nat) :=
  match fuel with
  | 0 => failure
  | fuel + 1 => do
      skipSpace
      match ← rest with
      | [] => failure
      | ']' :: _ =>
          advance
          close frame
      | '[' :: _ =>
          match ← bracketClass? with
          | some set => bracketedTail fuel (frame.add set 0)
          | none => do
              let (set, depth) ← bracketed fuel
              bracketedTail fuel (frame.add set depth)
      | '&' :: '&' :: rest => operator fuel frame .intersection rest
      | '-' :: '-' :: rest => operator fuel frame .difference rest
      | '~' :: '~' :: rest => operator fuel frame .symmetricDifference rest
      | _ =>
          let set ← setRange
          bracketedTail fuel (frame.add set 0)

def operator (fuel : Nat) (frame : SetFrame) (operator : SetOperator) (rest : List Char) :
    Parser (CharSet × Nat) :=
  match fuel with
  | 0 => failure
  | fuel + 1 => do
      setRest rest
      let (left, depth) ← close frame
      bracketedTail fuel ⟨some (left, depth, operator), [], 0, 0⟩

end

def flagNames : List Char := ['i', 'm', 's', 'U', 'u', 'R', 'x']

/-- Flag letters up to `:` or `)`; each letter and the hyphen at most once. -/
def flagItems (bound : Nat) (seen : List Char) : Parser (List Char) :=
  match bound with
  | 0 => failure
  | bound + 1 => do
      let c ← peek
      if c == ':' || c == ')' then
        guard (seen.head? != some '-')
        return seen.reverse
      else
        guard (c == '-' || flagNames.contains c)
        guard (!seen.contains c)
        advance
        flagItems bound (c :: seen)

def applyFlags (flags : Flags) (on : Bool) : List Char → Flags
  | [] => flags
  | '-' :: items => applyFlags flags false items
  | 'i' :: items => applyFlags { flags with ignoreCase := on } on items
  | 'm' :: items => applyFlags { flags with multiLine := on } on items
  | 's' :: items => applyFlags { flags with dotAll := on } on items
  | 'U' :: items => applyFlags { flags with swapGreed := on } on items
  | 'u' :: items => applyFlags { flags with unicode := on } on items
  | 'R' :: items => applyFlags { flags with withReturn := on } on items
  | 'x' :: items => applyFlags { flags with verbose := on } on items
  | _ :: items => applyFlags flags on items

def alphabetic : CharSet := (lookUp? properties "alpha").getD .empty

def numeric : CharSet := (category? "n").getD .empty

def isNameStart (c : Char) : Bool := c == '_' || alphabetic.contains c.toNat

def isNamePart (c : Char) : Bool :=
  c == '_' || c == '.' || c == '[' || c == ']' || alphabetic.contains c.toNat ||
    numeric.contains c.toNat

def groupName : Parser Unit := do
  let text ← rest
  let name := text.takeWhile (· != '>')
  setRest (text.dropWhile (· != '>'))
  expect '>'
  match name with
  | [] => failure
  | first :: others => guard (isNameStart first && others.all isNamePart)
  guard (!(← get).names.contains name)
  modify fun cursor => { cursor with names := name :: cursor.names }

def count? : Parser (Option Nat) := do
  let text := (← rest).dropWhile Text.isBlank
  let digits := text.takeWhile Char.isDigit
  setRest ((text.dropWhile Char.isDigit).dropWhile Text.isBlank)
  match Text.decimal? digits with
  | none => return none
  | some value =>
      guard (value < 0x100000000)
      return some value

/-- The bounds in braces; the flag tells whether it is greedy. -/
def countedBounds : Parser (Nat × Option Nat × Bool) := do
  advanceSpaced
  let _ ← peek
  let least ← count?
  let bounds ←
    if (← peek) == ',' then do
      advanceSpaced
      let least ← least
      if (← peek) == '\x7d' then pure (least, none)
      else do
        let greatest ← (← count?)
        guard (least ≤ greatest)
        pure (least, some greatest)
    else do
      let least ← least
      pure (least, some least)
  guard ((← peek) == '\x7d')
  advanceSpaced
  let lazy := (← rest).head? == some '?'
  if lazy then advance
  return (bounds.1, bounds.2, !lazy)

def suffixBounds (c : Char) : Parser (Nat × Option Nat × Bool) := do
  advance
  let lazy := (← rest).head? == some '?'
  if lazy then advance
  let bounds : Nat × Option Nat :=
    if c == '?' then (0, some 1) else if c == '*' then (0, none) else (1, none)
  return (bounds.1, bounds.2, !lazy)

def repeatedOf (bounds : Nat × Option Nat × Bool) (body : Nested) : Parser Nested := do
  let (least, greatest, greedy) := bounds
  let greedy := if (← flags).swapGreed then !greedy else greedy
  return ⟨.repeated least greatest greedy body.expr, body.depth + 1⟩

def primitive (item : Primitive) : Parser Nested :=
  match item with
  | .literal c isByte => return ⟨.chars (← literalSet c isByte), 0⟩
  | .perlClass letter => return ⟨.chars (← perlSet letter), 0⟩
  | .unicodeClass negated set => return ⟨.chars (← unicodeSet negated set), 0⟩
  | .assertion assertion => return ⟨.look assertion, 0⟩

def dot : Parser Nested := do
  let flags ← flags
  guard flags.unicode
  let excluded : CharSet :=
    if flags.dotAll then .empty
    else if flags.withReturn then .unionOf [.single '\n', .single '\r']
    else .single '\n'
  return ⟨.chars (.complement excluded), 0⟩

def lineStart : Parser Nested := do
  let flags ← flags
  return ⟨.look (if flags.multiLine then .lineStart flags.withReturn else .textStart), 0⟩

def lineEnd : Parser Nested := do
  let flags ← flags
  return ⟨.look (if flags.multiLine then .lineEnd flags.withReturn else .textEnd), 0⟩

def depthOf (parts : List Nested) : Nat :=
  match parts with
  | [] => 0
  | [only] => only.depth
  | parts => parts.foldl (fun depth part => max depth part.depth) 0 + 1

/-- A part of a concatenation; setting flags is one that cannot be repeated. -/
inductive Part where
  | nested (nested : Nested)
  | flags

def partsOf (parts : List Part) : List Nested :=
  parts.filterMap fun
    | .nested nested => some nested
    | .flags => some ⟨.empty, 0⟩

def concatOf (reversed : List Part) : Nested :=
  let parts := partsOf reversed.reverse
  ⟨.sequenceOf (parts.map Nested.expr), depthOf parts⟩

mutual

def alternatives (fuel : Nat) (before : List Nested) : Parser Nested :=
  match fuel with
  | 0 => failure
  | fuel + 1 => do
      let branch ← concatenation fuel []
      match ← rest with
      | '|' :: _ =>
          advance
          alternatives fuel (branch :: before)
      | _ =>
          let branches := (branch :: before).reverse
          return ⟨.eitherOf (branches.map Nested.expr), depthOf branches⟩

/-- Parts one after the other, collected in reverse. -/
def concatenation (fuel : Nat) (before : List Part) : Parser Nested :=
  match fuel with
  | 0 => failure
  | fuel + 1 => do
      skipSpace
      match ← rest with
      | [] => return concatOf before
      | '|' :: _ => return concatOf before
      | ')' :: _ => return concatOf before
      | '(' :: _ =>
          let part ← group fuel
          concatenation fuel (part :: before)
      | '[' :: _ =>
          let (set, depth) ← bracketed fuel
          guard ((← flags).unicode || set.isBasic)
          concatenation fuel (.nested ⟨.chars set, depth⟩ :: before)
      | '?' :: _ => repetition fuel before (suffixBounds '?')
      | '*' :: _ => repetition fuel before (suffixBounds '*')
      | '+' :: _ => repetition fuel before (suffixBounds '+')
      | '\x7b' :: _ => repetition fuel before countedBounds
      | '\\' :: _ =>
          let part ← primitive (← escape)
          concatenation fuel (.nested part :: before)
      | '.' :: _ =>
          advance
          concatenation fuel (.nested (← dot) :: before)
      | '^' :: _ =>
          advance
          concatenation fuel (.nested (← lineStart) :: before)
      | '$' :: _ =>
          advance
          concatenation fuel (.nested (← lineEnd) :: before)
      | c :: _ =>
          advance
          let part ← primitive (.literal c false)
          concatenation fuel (.nested part :: before)

def repetition (fuel : Nat) (before : List Part)
    (bounds : Parser (Nat × Option Nat × Bool)) : Parser Nested :=
  match fuel with
  | 0 => failure
  | fuel + 1 =>
      match before with
      | .nested body :: before => do
          let bounds ← bounds
          let part ← repeatedOf bounds body
          concatenation fuel (.nested part :: before)
      | _ => failure

def group (fuel : Nat) : Parser Part :=
  match fuel with
  | 0 => failure
  | fuel + 1 => do
      advance
      skipSpace
      let text ← rest
      let isLookAround := ["?=", "?!", "?<=", "?<!"].any fun start =>
        start.toList.isPrefixOf text
      guard (!isLookAround)
      if (← accept "?P<") || (← accept "?<") then
        groupName
        groupBody fuel (← flags)
      else if ← accept "?" then
        let outer ← flags
        let items ← flagItems ((← rest).length + 1) []
        let inner := applyFlags outer true items
        if (← peek) == ')' then
          guard (!items.isEmpty)
          advance
          setFlags inner
          return .flags
        else
          advance
          setFlags inner
          groupBody fuel outer
      else groupBody fuel (← flags)

/-- The inside of a group and its closing parenthesis; the outer flags come back after it. -/
def groupBody (fuel : Nat) (outer : Flags) : Parser Part :=
  match fuel with
  | 0 => failure
  | fuel + 1 => do
      let body ← alternatives fuel []
      expect ')'
      setFlags outer
      return .nested ⟨body.expr, body.depth + 1⟩

end

end Parser

def greatestDepth : Nat := 250

def parse (text : String) : Option Expr := do
  let chars := text.toList
  let (nested, cursor) ←
    (Parser.alternatives (4 * chars.length + 8) []).run ⟨chars, {}, []⟩
  guard (cursor.rest.isEmpty && nested.depth ≤ greatestDepth)
  return nested.expr

end ServiceStub.Regex
