import ServiceStub.Json.Basic
import ServiceStub.Regex.Matcher

namespace ServiceStub.Json

namespace Path

inductive Comparison where
  | equal
  | notEqual
  | less
  | lessOrEqual
  | greater
  | greaterOrEqual
  deriving Repr, DecidableEq

inductive Function where
  | length
  | count
  | value
  | fullMatch
  | search
  deriving Repr, DecidableEq

mutual

inductive Selector where
  | name (name : String)
  | wildcard
  | index (index : Int)
  | slice (start stop : Option Int) (step : Int)
  | filter (condition : Condition)

/-- Selectors applied to the selected values, or to them and all their descendants. -/
inductive Segment where
  | mk (descendant : Bool) (selectors : List Selector)

/-- A query from the document's root or from the value a filter looks at. -/
inductive Query where
  | mk (fromRoot : Bool) (segments : List Segment)

inductive Condition where
  | or (left right : Condition)
  | and (left right : Condition)
  | not (condition : Condition)
  | exist (query : Query)
  | compare (comparison : Comparison) (left right : Operand)
  | call (function : Function) (arguments : List Operand)

inductive Operand where
  | literal (value : Json)
  | query (query : Query)
  | call (function : Function) (arguments : List Operand)

end

inductive Operand.Value where
  | nodes (nodes : List Json)
  | value (value : Option Json)

namespace Operand.Value

/-- A selection counts as a value if it is exactly one. -/
def single : Path.Operand.Value → Option Json
  | .nodes [only] => some only
  | .nodes _ => none
  | .value found => found

end Operand.Value

mutual

/-- A value and everything inside it, each before what it contains. -/
def descendants : Json → List Json
  | .array items => .array items :: itemDescendants items
  | .object members => .object members :: memberDescendants members
  | .null => [.null]
  | .bool value => [.bool value]
  | .number value => [.number value]
  | .string text => [.string text]

def itemDescendants : List Json → List Json
  | [] => []
  | item :: items => descendants item ++ itemDescendants items

def memberDescendants : List (String × Json) → List Json
  | [] => []
  | (_, value) :: members => descendants value ++ memberDescendants members

end

def children : Json → List Json
  | .array items => items
  | .object members => Assoc.values members
  | _ => []

def itemAt (items : List Json) (index : Int) : List Json :=
  let position := if 0 ≤ index then index else index + items.length
  if 0 ≤ position then (items[position.toNat]?).toList else []

def steps (fuel : Nat) (step position stop : Int) : List Int :=
  match fuel with
  | 0 => []
  | fuel + 1 =>
      if (0 < step && position < stop) || (step < 0 && stop < position) then
        position :: steps fuel step (position + step) stop
      else []

/-- The items a slice selects; negative bounds count from the end. -/
def sliced (items : List Json) (start stop : Option Int) (step : Int) : List Json :=
  let length : Int := items.length
  let normal (bound : Int) : Int := if 0 ≤ bound then bound else length + bound
  let clampTo (low high value : Int) : Int := min (max value low) high
  let indices :=
    if 0 < step then
      let lower := clampTo 0 length (normal (start.getD 0))
      let upper := clampTo 0 length (normal (stop.getD length))
      steps items.length step lower upper
    else if step < 0 then
      let upper := clampTo (-1) (length - 1) (normal (start.getD (length - 1)))
      let lower := clampTo (-1) (length - 1) (normal (stop.getD (-length - 1)))
      steps items.length step upper lower
    else []
  indices.flatMap (itemAt items)

/-- Numbers are equal by their nearest doubles, other values as documents. -/
def valuesEqual (left right : Json) : Bool :=
  match left, right with
  | .number left, .number right => left.toFloat == right.toFloat
  | _, _ => left == right

def valuesLess (left right : Json) : Bool :=
  match left, right with
  | .number left, .number right => left.toFloat < right.toFloat
  | .string left, .string right => left < right
  | _, _ => false

def operandsEqual (left right : Option Json) : Bool :=
  match left, right with
  | some left, some right => valuesEqual left right
  | none, none => true
  | _, _ => false

def operandsLess (left right : Option Json) : Bool :=
  match left, right with
  | some left, some right => valuesLess left right
  | _, _ => false

def Comparison.holds (comparison : Comparison) (left right : Option Json) : Bool :=
  match comparison with
  | .equal => operandsEqual left right
  | .notEqual => !operandsEqual left right
  | .less => operandsLess left right
  | .lessOrEqual => operandsLess left right || operandsEqual left right
  | .greater => operandsLess right left
  | .greaterOrEqual => operandsLess right left || operandsEqual left right

def lengthOf : Option Json → Option Json
  | some (.string text) => some (.ofNat text.length)
  | some (.array items) => some (.ofNat items.length)
  | some (.object members) => some (.ofNat members.length)
  | _ => none

def textMatches (before after : String) (text expression : Option Json) : Bool :=
  match text, expression with
  | some (.string text), some (.string expression) =>
      match Regex.ofString? (before ++ expression ++ after) with
      | some regex => regex.isMatch text
      | none => false
  | _, _ => false

def Function.result (function : Function) (arguments : List Operand.Value) : Operand.Value :=
  match function, arguments with
  | .length, [argument] => .value (lengthOf argument.single)
  | .count, [.nodes nodes] => .value (some (.ofNat nodes.length))
  | .value, [argument] => .value argument.single
  | _, _ => .value none

def Function.holds (function : Function) (arguments : List Operand.Value) : Bool :=
  match function, arguments with
  | .fullMatch, [text, expression] => textMatches "(?R)^(" ")$" text.single expression.single
  | .search, [text, expression] => textMatches "(?R)(" ")" text.single expression.single
  | _, _ => false

mutual

def Selector.select (root : Json) (selector : Selector) (current : Json) : List Json :=
  match selector with
  | .name name => (current.member? name).toList
  | .wildcard => children current
  | .index index =>
      match current with
      | .array items => itemAt items index
      | _ => []
  | .slice start stop step =>
      match current with
      | .array items => sliced items start stop step
      | _ => []
  | .filter condition => (children current).filter fun child => condition.holds root child

def selectAll (root : Json) (selectors : List Selector) (current : Json) : List Json :=
  match selectors with
  | [] => []
  | selector :: selectors => selector.select root current ++ selectAll root selectors current

def Segment.select (root : Json) (segment : Segment) (nodes : List Json) : List Json :=
  match segment with
  | .mk false selectors => nodes.flatMap fun node => selectAll root selectors node
  | .mk true selectors =>
      nodes.flatMap fun node =>
        (descendants node).flatMap fun inner => selectAll root selectors inner

def selectSegments (root : Json) (segments : List Segment) (nodes : List Json) : List Json :=
  match segments with
  | [] => nodes
  | segment :: segments => selectSegments root segments (segment.select root nodes)

def Query.select (root current : Json) (query : Query) : List Json :=
  match query with
  | .mk fromRoot segments => selectSegments root segments [if fromRoot then root else current]

def Condition.holds (root current : Json) (condition : Condition) : Bool :=
  match condition with
  | .or left right => left.holds root current || right.holds root current
  | .and left right => left.holds root current && right.holds root current
  | .not condition => !condition.holds root current
  | .exist query => !(query.select root current).isEmpty
  | .compare comparison left right =>
      comparison.holds (left.evaluate root current).single (right.evaluate root current).single
  | .call function arguments => function.holds (evaluateAll root current arguments)

def Operand.evaluate (root current : Json) (operand : Operand) : Operand.Value :=
  match operand with
  | .literal value => .value (some value)
  | .query query => .nodes (query.select root current)
  | .call function arguments => function.result (evaluateAll root current arguments)

def evaluateAll (root current : Json) (operands : List Operand) : List Operand.Value :=
  match operands with
  | [] => []
  | operand :: operands =>
      operand.evaluate root current :: evaluateAll root current operands

end

end Path

structure Path where
  query : Path.Query

namespace Path

def select (path : Path) (document : Json) : List Json :=
  path.query.select document document

end Path

end ServiceStub.Json
