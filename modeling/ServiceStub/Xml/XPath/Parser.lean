import ServiceStub.Xml.XPath.Syntax
import ServiceStub.Xml.XPath.Token

namespace ServiceStub.Xml.XPath

namespace Axis

def ofName? : String → Option Axis
  | "ancestor" => some .ancestor
  | "ancestor-or-self" => some .ancestorOrSelf
  | "attribute" => some .attributes
  | "child" => some .child
  | "descendant" => some .descendant
  | "descendant-or-self" => some .descendantOrSelf
  | "following" => some .following
  | "following-sibling" => some .followingSibling
  | "namespace" => some .namespaces
  | "parent" => some .parent
  | "preceding" => some .preceding
  | "preceding-sibling" => some .precedingSibling
  | "self" => some .self
  | _ => none

end Axis

namespace Operator

/-- The operators that bind equally strongly, from the weakest level up. -/
def levels : List (List (Token × Operator)) :=
  [[(.operatorName "or", .or)],
    [(.operatorName "and", .and)],
    [(.symbol "=", .equal), (.symbol "!=", .notEqual)],
    [(.symbol "<", .less), (.symbol "<=", .lessOrEqual), (.symbol ">", .greater),
      (.symbol ">=", .greaterOrEqual)],
    [(.symbol "+", .add), (.symbol "-", .subtract)],
    [(.operatorName "*", .multiply), (.operatorName "div", .divide),
      (.operatorName "mod", .modulo)]]

end Operator

abbrev TokenReader := StateT (List Token) Option

namespace TokenReader

def accept (text : String) : TokenReader Bool := do
  match ← get with
  | token :: rest =>
      if token == .symbol text then
        set rest
        return true
      else return false
  | [] => return false

def expect (text : String) : TokenReader Unit := do guard (← accept text)

def operator? (level : List (Token × Operator)) : TokenReader (Option Operator) := do
  match ← get with
  | token :: rest =>
      match level.lookup token with
      | some operator =>
          set rest
          return some operator
      | none => return none
  | [] => return none

def atStep : TokenReader Bool := do
  match ← get with
  | .symbol text :: _ => return [".", "..", "@"].contains text
  | .axis _ :: _ => return true
  | .nodeType _ :: _ => return true
  | .name _ _ :: _ => return true
  | _ => return false

def nodeTest : TokenReader NodeTest := do
  match ← get with
  | .name pfx localPart :: rest =>
      set rest
      return .name pfx localPart
  | .nodeType type :: rest =>
      set rest
      expect "("
      let test ← match type, ← get with
        | "processing-instruction", .literal target :: rest => do
            set rest
            pure (.instruction (some target))
        | "processing-instruction", _ => pure (.instruction none)
        | "comment", _ => pure .comment
        | "text", _ => pure .text
        | _, _ => pure .node
      expect ")"
      return test
  | _ => failure

def stepHead : TokenReader (Axis × NodeTest) := do
  if ← accept "." then return (.self, .node)
  else if ← accept ".." then return (.parent, .node)
  else if ← accept "@" then return (.attributes, ← nodeTest)
  else
    match ← get with
    | .axis axis :: rest =>
        set rest
        let axis ← Axis.ofName? axis
        return (axis, ← nodeTest)
    | _ => return (.child, ← nodeTest)

def anyDescendant : Step := .mk .descendantOrSelf .node []

mutual

def expression (fuel : Nat) : TokenReader Expr :=
  match fuel with
  | 0 => failure
  | fuel + 1 => binary fuel Operator.levels

def binary (fuel : Nat) (levels : List (List (Token × Operator))) : TokenReader Expr :=
  match fuel, levels with
  | 0, _ => failure
  | fuel + 1, [] => unary fuel
  | fuel + 1, level :: levels => do
      let first ← binary fuel levels
      binaryTail fuel level levels first

def binaryTail (fuel : Nat) (level : List (Token × Operator))
    (levels : List (List (Token × Operator))) (left : Expr) : TokenReader Expr :=
  match fuel with
  | 0 => failure
  | fuel + 1 => do
      match ← operator? level with
      | none => return left
      | some operator =>
          let right ← binary fuel levels
          binaryTail fuel level levels (.binary operator left right)

def unary (fuel : Nat) : TokenReader Expr :=
  match fuel with
  | 0 => failure
  | fuel + 1 => do
      if ← accept "-" then return .negate (← unary fuel)
      else union fuel

def union (fuel : Nat) : TokenReader Expr :=
  match fuel with
  | 0 => failure
  | fuel + 1 => do
      let left ← path fuel
      if ← accept "|" then return .binary .union left (← union fuel) else return left

def path (fuel : Nat) : TokenReader Expr :=
  match fuel with
  | 0 => failure
  | fuel + 1 => do
      if ← accept "//" then return .path .root (anyDescendant :: (← steps fuel))
      else if ← accept "/" then
        if ← atStep then return .path .root (← steps fuel) else return .root
      else if ← atStep then return .path .current (← steps fuel)
      else
        let start ← filtered fuel (← primary fuel)
        if ← accept "//" then return .path start (anyDescendant :: (← steps fuel))
        else if ← accept "/" then return .path start (← steps fuel)
        else return start

def steps (fuel : Nat) : TokenReader (List Step) :=
  match fuel with
  | 0 => failure
  | fuel + 1 => do
      let (axis, test) ← stepHead
      let step := Step.mk axis test (← predicates fuel)
      if ← accept "//" then return step :: anyDescendant :: (← steps fuel)
      else if ← accept "/" then return step :: (← steps fuel)
      else return [step]

def predicates (fuel : Nat) : TokenReader (List Expr) :=
  match fuel with
  | 0 => failure
  | fuel + 1 => do
      if ← accept "[" then
        let predicate ← expression fuel
        expect "]"
        return predicate :: (← predicates fuel)
      else return []

def filtered (fuel : Nat) (nodes : Expr) : TokenReader Expr :=
  match fuel with
  | 0 => failure
  | fuel + 1 => do return (← predicates fuel).foldl Expr.filter nodes

def primary (fuel : Nat) : TokenReader Expr :=
  match fuel with
  | 0 => failure
  | fuel + 1 => do
      match ← get with
      | .reference name :: rest =>
          set rest
          return .reference name
      | .literal text :: rest =>
          set rest
          return .literal text
      | .number value :: rest =>
          set rest
          return .number value
      | .function name :: rest =>
          set rest
          expect "("
          if ← accept ")" then return .call name []
          else return .call name (← arguments fuel)
      | _ =>
          expect "("
          let inner ← expression fuel
          expect ")"
          return inner

def arguments (fuel : Nat) : TokenReader (List Expr) :=
  match fuel with
  | 0 => failure
  | fuel + 1 => do
      let first ← expression fuel
      if ← accept "," then return first :: (← arguments fuel)
      else
        expect ")"
        return [first]

end

end TokenReader

def parse (text : String) : Option Expr := do
  let tokens ← Token.ofText? text
  let (expr, rest) ← (TokenReader.expression (16 * tokens.length + 16)).run tokens
  guard rest.isEmpty
  return expr

end ServiceStub.Xml.XPath
