import ServiceStub.Json.Path
import ServiceStub.Json.Parser

/-! Reading JSONPath expressions, with the types of functions checked. -/

namespace ServiceStub.Json.Path

abbrev Reader := StateT (List Char) Option

namespace Reader

def accept (text : String) : Reader Bool := do
  match Text.stripStart? text.toList (← get) with
  | some rest => set rest; return true
  | none => return false

def expect (text : String) : Reader Unit := do guard (← accept text)

def space : Reader Unit := modify skipSpace

def takeWhile (wanted : Char → Bool) : Reader (List Char) := do
  let text ← get
  set (text.dropWhile wanted)
  return text.takeWhile wanted

def isNameStart (c : Char) : Bool := c.isAlpha || c == '_' || 0x80 ≤ c.toNat

def isNamePart (c : Char) : Bool := isNameStart c || c.isDigit

def shorthand : Reader String := do
  match ← get with
  | c :: _ =>
      guard (isNameStart c)
      return String.ofList (← takeWhile isNamePart)
  | [] => failure

def quotedTail (fuel : Nat) (quote : Char) : Reader (List Char) :=
  match fuel with
  | 0 => failure
  | fuel + 1 => do
      match ← get with
      | [] => failure
      | '\\' :: c :: rest =>
          if c == quote then
            set rest
            return c :: (← quotedTail fuel quote)
          else
            guard (c != '"')
            let (c, rest) ← escape? (c :: rest)
            set rest
            return c :: (← quotedTail fuel quote)
      | c :: rest =>
          set rest
          if c == quote then return []
          else
            guard (0x20 ≤ c.toNat && c != '\\')
            return c :: (← quotedTail fuel quote)

def quoted : Reader String := do
  let text ← get
  match text with
  | c :: rest =>
      guard (c == '"' || c == '\'')
      set rest
      return String.ofList (← quotedTail (rest.length + 1) c)
  | [] => failure

def greatestIndex : Int := 0x1FFFFFFFFFFFFF

def integerText : Reader (Bool × List Char) := do
  let negative ← accept "-"
  let digits ← takeWhile Char.isDigit
  match digits with
  | [] => failure
  | ['0'] => return (negative, digits)
  | first :: _ =>
      guard (first != '0')
      return (negative, digits)

/-- An integer within the range that doubles hold exactly. -/
def integer : Reader Int := do
  let (negative, digits) ← integerText
  let magnitude ← Text.decimal? digits
  guard (!(negative && magnitude == 0))
  guard ((magnitude : Int) ≤ greatestIndex)
  return if negative then -(magnitude : Int) else magnitude

def number : Reader Json := do
  let start ← get
  let _ ← integerText
  if ← accept "." then
    guard (!(← takeWhile Char.isDigit).isEmpty)
  if (← accept "e") || (← accept "E") then
    if !(← accept "+") then let _ ← accept "-"
    guard (!(← takeWhile Char.isDigit).isEmpty)
  let rest ← get
  let text := start.take (start.length - rest.length)
  let (value, beyond) ← JsonNumber.read text
  guard beyond.isEmpty
  return .number value

def literal : Reader Json := do
  match ← get with
  | '"' :: _ => return .string (← quoted)
  | '\'' :: _ => return .string (← quoted)
  | c :: _ =>
      if c == '-' || c.isDigit then number
      else if ← accept "true" then return .bool true
      else if ← accept "false" then return .bool false
      else do
        expect "null"
        return .null
  | [] => failure

def comparison? : Reader (Option Comparison) := do
  if ← accept "==" then return some .equal
  else if ← accept "!=" then return some .notEqual
  else if ← accept "<=" then return some .lessOrEqual
  else if ← accept ">=" then return some .greaterOrEqual
  else if ← accept "<" then return some .less
  else if ← accept ">" then return some .greater
  else return none

def isSingular : List Segment → Bool
  | [] => true
  | .mk false [.name _] :: segments => isSingular segments
  | .mk false [.index _] :: segments => isSingular segments
  | _ => false

def isValue : Operand → Bool
  | .literal _ => true
  | .query (.mk _ segments) => isSingular segments
  | .call function _ =>
      match function with
      | .length => true
      | .count => true
      | .value => true
      | .fullMatch => false
      | .search => false

def isQuery : Operand → Bool
  | .query _ => true
  | _ => false

def function? (name : String) : Option Function :=
  match name with
  | "length" => some .length
  | "count" => some .count
  | "value" => some .value
  | "match" => some .fullMatch
  | "search" => some .search
  | _ => none

def takes (function : Function) (arguments : List Operand) : Bool :=
  match function, arguments with
  | .length, [argument] => isValue argument
  | .count, [argument] => isQuery argument
  | .value, [argument] => isQuery argument
  | .fullMatch, [text, expression] => isValue text && isValue expression
  | .search, [text, expression] => isValue text && isValue expression
  | _, _ => false

def isTest : Function → Bool
  | .fullMatch => true
  | .search => true
  | _ => false

def isFunctionPart (c : Char) : Bool := c.isLower || c == '_' || c.isDigit

def sliceTail (start : Option Int) : Reader Selector := do
  expect ":"
  space
  let stop ← optional integer
  let afterStop ← get
  space
  if ← accept ":" then
    let afterColon ← get
    space
    match ← optional integer with
    | some step => return .slice start stop step
    | none =>
        set afterColon
        return .slice start stop 1
  else
    set afterStop
    return .slice start stop 1

mutual

def segments (fuel : Nat) : Reader (List Segment) :=
  match fuel with
  | 0 => failure
  | fuel + 1 => do
      let start ← get
      space
      match ← get with
      | '.' :: '.' :: rest =>
          set rest
          let selectors ← afterDots fuel
          return .mk true selectors :: (← segments fuel)
      | '.' :: rest =>
          set rest
          let selector ← afterDot
          return .mk false [selector] :: (← segments fuel)
      | '[' :: _ =>
          let selectors ← bracket fuel
          return .mk false selectors :: (← segments fuel)
      | _ =>
          set start
          return []

def afterDot : Reader Selector := do
  if ← accept "*" then return .wildcard else return .name (← shorthand)

def afterDots (fuel : Nat) : Reader (List Selector) :=
  match fuel with
  | 0 => failure
  | fuel + 1 => do
      match ← get with
      | '[' :: _ => bracket fuel
      | _ => return [← afterDot]

def bracket (fuel : Nat) : Reader (List Selector) :=
  match fuel with
  | 0 => failure
  | fuel + 1 => do
      expect "["
      space
      selectors fuel

def selectors (fuel : Nat) : Reader (List Selector) :=
  match fuel with
  | 0 => failure
  | fuel + 1 => do
      let selector ← selector fuel
      space
      if ← accept "," then
        space
        return selector :: (← selectors fuel)
      else
        expect "]"
        return [selector]

def selector (fuel : Nat) : Reader Selector :=
  match fuel with
  | 0 => failure
  | fuel + 1 => do
      match ← get with
      | '"' :: _ => return .name (← quoted)
      | '\'' :: _ => return .name (← quoted)
      | '*' :: rest =>
          set rest
          return .wildcard
      | '?' :: rest =>
          set rest
          space
          return .filter (← disjunction fuel)
      | ':' :: _ => sliceTail none
      | _ =>
          let index ← integer
          let afterIndex ← get
          space
          match ← get with
          | ':' :: _ => sliceTail (some index)
          | _ =>
              set afterIndex
              return .index index

def disjunction (fuel : Nat) : Reader Condition :=
  match fuel with
  | 0 => failure
  | fuel + 1 => do
      let left ← conjunction fuel
      let start ← get
      space
      if ← accept "||" then
        space
        return .or left (← disjunction fuel)
      else
        set start
        return left

def conjunction (fuel : Nat) : Reader Condition :=
  match fuel with
  | 0 => failure
  | fuel + 1 => do
      let left ← basic fuel
      let start ← get
      space
      if ← accept "&&" then
        space
        return .and left (← conjunction fuel)
      else
        set start
        return left

def basic (fuel : Nat) : Reader Condition :=
  match fuel with
  | 0 => failure
  | fuel + 1 => do
      if ← accept "!" then
        space
        match ← get with
        | '(' :: _ => return .not (← parenthesized fuel)
        | _ => return .not (← test (← operand fuel))
      else
        match ← get with
        | '(' :: _ => parenthesized fuel
        | _ =>
            let left ← operand fuel
            let start ← get
            space
            match ← comparison? with
            | none =>
                set start
                test left
            | some comparison =>
                space
                let right ← operand fuel
                guard (isValue left && isValue right)
                return .compare comparison left right

def parenthesized (fuel : Nat) : Reader Condition :=
  match fuel with
  | 0 => failure
  | fuel + 1 => do
      expect "("
      space
      let condition ← disjunction fuel
      space
      expect ")"
      return condition

/-- An operand that stands alone: a selection that has to exist, or a function that tests. -/
def test (operand : Operand) : Reader Condition :=
  match operand with
  | .query query => return .exist query
  | .call function arguments => do
      guard (isTest function)
      return .call function arguments
  | .literal _ => failure

def operand (fuel : Nat) : Reader Operand :=
  match fuel with
  | 0 => failure
  | fuel + 1 => do
      match ← get with
      | '$' :: rest =>
          set rest
          return .query (.mk true (← segments fuel))
      | '@' :: rest =>
          set rest
          return .query (.mk false (← segments fuel))
      | start =>
          let name ← takeWhile isFunctionPart
          if (name.head?.map Char.isLower).getD false && (← accept "(") then
            let function ← function? (String.ofList name)
            space
            let arguments ←
              if ← accept ")" then pure []
              else arguments fuel
            guard (takes function arguments)
            return .call function arguments
          else
            set start
            return .literal (← literal)

def arguments (fuel : Nat) : Reader (List Operand) :=
  match fuel with
  | 0 => failure
  | fuel + 1 => do
      let argument ← operand fuel
      space
      if ← accept "," then
        space
        return argument :: (← arguments fuel)
      else
        expect ")"
        return [argument]

end

end Reader

def parse (expression : String) : Option Path := do
  let text ← Text.stripStart? ['$'] expression.toList
  let (segments, rest) ← (Reader.segments (8 * text.length + 8)).run text
  guard rest.isEmpty
  return ⟨.mk true segments⟩

end ServiceStub.Json.Path
