import ServiceStub.Regex.CharSet

namespace ServiceStub.Regex

inductive Assertion where
  | textStart
  | textEnd
  | lineStart (withReturn : Bool)
  | lineEnd (withReturn : Bool)
  | wordBoundary (basic : Bool)
  | noWordBoundary (basic : Bool)
  | wordStart (basic : Bool)
  | wordEnd (basic : Bool)
  | wordStartHalf (basic : Bool)
  | wordEndHalf (basic : Bool)
  deriving Repr, DecidableEq

namespace Assertion

def isWord (basic : Bool) (c : Option Char) : Bool :=
  match c with
  | none => false
  | some c => if basic then basicWordSet.contains c.toNat else wordSet.contains c.toNat

def holds (before after : Option Char) : Assertion → Bool
  | .textStart => before.isNone
  | .textEnd => after.isNone
  | .lineStart false => before.isNone || before == some '\n'
  | .lineEnd false => after.isNone || after == some '\n'
  | .lineStart true =>
      before.isNone || before == some '\n' || (before == some '\r' && after != some '\n')
  | .lineEnd true =>
      after.isNone || after == some '\r' || (after == some '\n' && before != some '\r')
  | .wordBoundary basic => isWord basic before != isWord basic after
  | .noWordBoundary basic => isWord basic before == isWord basic after
  | .wordStart basic => !isWord basic before && isWord basic after
  | .wordEnd basic => isWord basic before && !isWord basic after
  | .wordStartHalf basic => !isWord basic before
  | .wordEndHalf basic => !isWord basic after

end Assertion

/-- A regular expression with all its flags resolved. -/
inductive Expr where
  | empty
  | chars (set : CharSet)
  | look (assertion : Assertion)
  | sequence (first second : Expr)
  | either (first second : Expr)
  | repeated (least : Nat) (greatest : Option Nat) (greedy : Bool) (body : Expr)

namespace Expr

def consumes : Expr → Bool
  | .empty => false
  | .chars _ => true
  | .look _ => false
  | .sequence first second => first.consumes || second.consumes
  | .either first second => first.consumes && second.consumes
  | .repeated least _ _ body => 0 < least && body.consumes

/-- About how many bytes the expression takes as an automaton. -/
def weight : Expr → Nat
  | .empty => 0
  | .chars set => if set.weight ≤ 1 then 32 else 32 + 16 * set.weight
  | .look _ => 32
  | .sequence first second => first.weight + second.weight
  | .either first second => first.weight + second.weight + 40
  | .repeated least greatest _ body =>
      match greatest with
      | none => (max least 1) * body.weight + 40
      | some greatest => greatest * body.weight + (greatest - least) * 40

def sequenceOf : List Expr → Expr
  | [] => .empty
  | [only] => only
  | first :: rest => .sequence first (sequenceOf rest)

def eitherOf : List Expr → Expr
  | [] => .empty
  | [only] => only
  | first :: rest => .either first (eitherOf rest)

end Expr

structure Flags where
  ignoreCase : Bool := false
  multiLine : Bool := false
  dotAll : Bool := false
  swapGreed : Bool := false
  unicode : Bool := true
  withReturn : Bool := false
  verbose : Bool := false
  deriving Repr, DecidableEq

end ServiceStub.Regex
