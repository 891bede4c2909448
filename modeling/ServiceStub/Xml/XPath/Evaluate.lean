import ServiceStub.Decimal.Text
import ServiceStub.Text.Blank
import ServiceStub.Xml.XPath.Parser

/-! What an XPath expression denotes in a document.  An expression that names an unknown
function or variable, or takes nodes of a value that has none, denotes nothing. -/

namespace ServiceStub.Xml.XPath

/-- Nodes are positions in the document, in ascending order and without repetition. -/
inductive Value where
  | nodes (positions : List Nat)
  | boolean (value : Bool)
  | number (value : Float)
  | string (text : String)
  deriving Repr

namespace Value

def numberText (value : Float) : String :=
  if value.isNaN || value.isFinite then Decimal.plainText value
  else if value < 0.0 then "-Infinity" else "Infinity"

def textNumber (text : String) : Float :=
  (Decimal.ofText? (Text.trim text).toList).getD (0.0 / 0.0)

def toText (document : Document) : Value → String
  | .nodes positions => (positions.head?.map document.stringValue).getD ""
  | .boolean value => toString value
  | .number value => numberText value
  | .string text => text

def toNumber (document : Document) : Value → Float
  | .boolean value => if value then 1.0 else 0.0
  | .number value => value
  | value => textNumber (value.toText document)

def toBool : Value → Bool
  | .nodes positions => !positions.isEmpty
  | .boolean value => value
  | .number value => !(value == 0.0) && !value.isNaN
  | .string text => !text.isEmpty

def nodes? : Value → Option (List Nat)
  | .nodes positions => some positions
  | _ => none

/-- Nodes are equal to a value if one of them is. -/
def equal (document : Document) (left right : Value) : Bool :=
  match left, right with
  | .nodes lefts, .nodes rights =>
      let texts := rights.map document.stringValue
      lefts.any fun node => texts.contains (document.stringValue node)
  | .nodes lefts, .number value =>
      lefts.any fun node => textNumber (document.stringValue node) == value
  | .number value, .nodes rights =>
      rights.any fun node => textNumber (document.stringValue node) == value
  | .nodes lefts, .string text => lefts.any fun node => document.stringValue node == text
  | .string text, .nodes rights => rights.any fun node => document.stringValue node == text
  | .boolean value, other => value == other.toBool
  | other, .boolean value => other.toBool == value
  | .number value, other => value == other.toNumber document
  | other, .number value => other.toNumber document == value
  | .string left, .string right => left == right

end Value

/-- The remainder with the sign of the dividend. -/
def remainder (dividend divisor : Float) : Float :=
  if dividend.isNaN || divisor.isNaN || divisor == 0.0 || !dividend.isFinite then 0.0 / 0.0
  else if !divisor.isFinite then dividend
  else
    let left := Decimal.Binary.ofFloat dividend
    let right := Decimal.Binary.ofFloat divisor
    let exponent := min left.exponent right.exponent
    let scale (value : Decimal.Binary) : Nat :=
      value.significand * Nat.pow 2 (value.exponent - exponent).toNat
    let rest := scale left % scale right
    let magnitude := (Float.ofNat rest).scaleB exponent
    if left.negative then -magnitude else magnitude

/-- The nearest whole number; a half goes up. -/
def roundHalfUp (value : Float) : Float :=
  let below := value.floor
  if value == below || value.isNaN then value
  else
    let rounded := (2.0 * value - below).floor
    if value < 0.0 && rounded == 0.0 then -0.0 else rounded

def inOrder (positions : List Nat) : List Nat :=
  (positions.mergeSort fun left right => left ≤ right).eraseDups

structure Focus where
  document : Document
  namespaces : List (String × String)
  node : Nat
  position : Nat
  size : Nat

namespace Axis

/-- The nodes on an axis, nearest first. -/
def select (document : Document) (node : Nat) : Axis → List Nat
  | .self => [node]
  | .parent => (document.parentOf node).toList
  | .ancestor => document.ancestors document.size node
  | .ancestorOrSelf => node :: document.ancestors document.size node
  | .child => document.children node
  | .descendant => document.descendants node
  | .descendantOrSelf => node :: document.descendants node
  | .attributes =>
      document.attached node fun
        | .attr _ => true
        | _ => false
  | .namespaces =>
      document.attached node fun
        | .declaration _ _ => true
        | _ => false
  | .followingSibling => (siblings document node).filter (node < ·)
  | .precedingSibling => ((siblings document node).filter (· < node)).reverse
  | .following => (document.descendants 0).filter (document.stopOf (anchor document node) ≤ ·)
  | .preceding =>
      ((document.descendants 0).filter fun other =>
        document.stopOf other ≤ anchor document node).reverse
where
  siblings (document : Document) (node : Nat) : List Nat :=
    if document.isAttached node then []
    else
      match document.parentOf node with
      | some outer => document.children outer
      | none => []
  anchor (document : Document) (node : Nat) : Nat :=
    if document.isAttached node then (document.parentOf node).getD node else node

end Axis

def nameMatches (uri : Option String) (localPart : Option String) (name : Name) : Bool :=
  match localPart with
  | none => uri.isNone || name.uri == uri
  | some localPart => name.uri == uri && name.localPart == localPart

/-- Whether a node passes a test; a test with an unknown prefix denotes nothing. -/
def NodeTest.holds (focus : Focus) (axis : Axis) (test : NodeTest) (node : Nat) : Option Bool :=
  let kind := focus.document.kindAt node
  match test with
  | .node => some true
  | .text =>
      match kind with
      | .text _ => some true
      | _ => some false
  | .comment =>
      match kind with
      | .comment _ => some true
      | _ => some false
  | .instruction target =>
      match kind with
      | .instruction found _ => some (target.isNone || target == some found)
      | _ => some false
  | .name pfx localPart => do
      let uri ← match pfx with
        | none => pure none
        | some pfx => (focus.namespaces.lookup pfx).map some
      match axis, kind with
      | .attributes, .attr held => some (nameMatches uri localPart held.name)
      | .namespaces, .declaration pfx _ => some (nameMatches uri localPart ⟨none, pfx, pfx⟩)
      | .attributes, _ => some false
      | .namespaces, _ => some false
      | _, .element written => some (nameMatches uri localPart written)
      | _, _ => some false

def nameOf (document : Document) (node : Nat) : Option Name :=
  match document.kindAt node with
  | .element name => some name
  | .attr held => some held.name
  | .declaration pfx _ => some ⟨none, pfx, pfx⟩
  | .instruction target _ => some ⟨none, target, target⟩
  | _ => none

def normalizeSpace (text : String) : String :=
  String.intercalate " " <|
    ((Text.splitAt isSpace text.toList).filter fun piece => !piece.isEmpty).map String.ofList

/-- Replace each character of `source` by the one at its place in `target`, or drop it. -/
def translate (text source target : List Char) : String :=
  String.ofList <| text.filterMap fun c =>
    match source.idxOf? c with
    | none => some c
    | some position => target[position]?

def substring (text : String) (start length : Float) : String :=
  let start := roundHalfUp start
  String.ofList <| (text.toList.zipIdx 1).filterMap fun (c, position) =>
    let position := Float.ofNat position
    if start ≤ position && position < start + length then some c else none

def call (focus : Focus) (name : String) (arguments : List Value) : Option Value :=
  let document := focus.document
  let text (value : Value) : String := value.toText document
  let here : String := document.stringValue focus.node
  let nameText (part : Name → String) : List Nat → Value := fun nodes =>
    .string (((nodes.head?.bind (nameOf document)).map part).getD "")
  match name, arguments with
  | "last", [] => some (.number (Float.ofNat focus.size))
  | "position", [] => some (.number (Float.ofNat focus.position))
  | "count", [nodes] => nodes.nodes?.map fun nodes => .number (Float.ofNat nodes.length)
  | "local-name", [] => some (nameText (·.localPart) [focus.node])
  | "local-name", [nodes] => nodes.nodes?.map (nameText (·.localPart))
  | "namespace-uri", [] => some (nameText (·.uri.getD "") [focus.node])
  | "namespace-uri", [nodes] => nodes.nodes?.map (nameText (·.uri.getD ""))
  | "name", [] => some (nameText (·.written) [focus.node])
  | "name", [nodes] => nodes.nodes?.map (nameText (·.written))
  | "string", [] => some (.string here)
  | "string", [value] => some (.string (text value))
  | "concat", first :: second :: rest =>
      some (.string (String.join ((first :: second :: rest).map text)))
  | "starts-with", [whole, part] =>
      some (.boolean ((text part).toList.isPrefixOf (text whole).toList))
  | "contains", [whole, part] =>
      some (.boolean (Text.contains (text part).toList (text whole).toList))
  | "substring-before", [whole, part] =>
      let whole := (text whole).toList
      let position := Text.indexOf? (text part).toList whole
      some (.string (String.ofList (whole.take (position.getD 0))))
  | "substring-after", [whole, part] =>
      let whole := (text whole).toList
      let part := (text part).toList
      match Text.indexOf? part whole with
      | some position => some (.string (String.ofList (whole.drop (position + part.length))))
      | none => some (.string "")
  | "substring", [whole, start] =>
      some (.string (substring (text whole) (start.toNumber document) (1.0 / 0.0)))
  | "substring", [whole, start, length] =>
      some (.string (substring (text whole) (start.toNumber document)
        (roundHalfUp (length.toNumber document))))
  | "string-length", [] => some (.number (Float.ofNat here.length))
  | "string-length", [value] => some (.number (Float.ofNat (text value).length))
  | "normalize-space", [] => some (.string (normalizeSpace here))
  | "normalize-space", [value] => some (.string (normalizeSpace (text value)))
  | "translate", [value, source, target] =>
      some (.string (translate (text value).toList (text source).toList (text target).toList))
  | "boolean", [value] => some (.boolean value.toBool)
  | "not", [value] => some (.boolean !value.toBool)
  | "true", [] => some (.boolean true)
  | "false", [] => some (.boolean false)
  | "number", [] => some (.number (Value.textNumber here))
  | "number", [value] => some (.number (value.toNumber document))
  | "sum", [nodes] => nodes.nodes?.map fun nodes =>
      .number (nodes.foldl
        (fun sum node => sum + Value.textNumber (document.stringValue node)) 0.0)
  | "floor", [value] => some (.number (value.toNumber document).floor)
  | "ceiling", [value] => some (.number (value.toNumber document).ceil)
  | "round", [value] => some (.number (roundHalfUp (value.toNumber document)))
  | _, _ => none

def Operator.apply (document : Document) (operator : Operator) (left right : Value) :
    Option Value :=
  let leftNumber := left.toNumber document
  let rightNumber := right.toNumber document
  match operator with
  | .or => some (.boolean (left.toBool || right.toBool))
  | .and => some (.boolean (left.toBool && right.toBool))
  | .equal => some (.boolean (left.equal document right))
  | .notEqual => some (.boolean !(left.equal document right))
  | .less => some (.boolean (leftNumber < rightNumber))
  | .lessOrEqual => some (.boolean (leftNumber ≤ rightNumber))
  | .greater => some (.boolean (rightNumber < leftNumber))
  | .greaterOrEqual => some (.boolean (rightNumber ≤ leftNumber))
  | .add => some (.number (leftNumber + rightNumber))
  | .subtract => some (.number (leftNumber - rightNumber))
  | .multiply => some (.number (leftNumber * rightNumber))
  | .divide => some (.number (leftNumber / rightNumber))
  | .modulo => some (.number (remainder leftNumber rightNumber))
  | .union => do
      let left ← left.nodes?
      let right ← right.nodes?
      return .nodes (inOrder (left ++ right))

/-- Whether a predicate keeps the node in focus: a number keeps the node at its position. -/
def Value.keeps (focus : Focus) : Value → Bool
  | .number value => focus.position == value.toUInt64.toNat
  | value => value.toBool

def keepWhere (focus : Focus) (condition : Focus → Option Value) (nodes : List Nat) :
    Option (List Nat) :=
  (nodes.zipIdx 1).foldrM
    (fun (node, position) kept => do
      let inner := { focus with node, position, size := nodes.length }
      let value ← condition inner
      return if value.keeps inner then node :: kept else kept)
    []

mutual

def Expr.evaluate (focus : Focus) (expr : Expr) : Option Value :=
  match expr with
  | .number value => some (.number value)
  | .literal text => some (.string text)
  | .reference _ => none
  | .root => some (.nodes [0])
  | .current => some (.nodes [focus.node])
  | .call name arguments => do call focus name (← evaluateAll focus arguments)
  | .negate operand => do
      let value ← operand.evaluate focus
      return .number (-(value.toNumber focus.document))
  | .binary operator left right => do
      let leftValue ← left.evaluate focus
      match operator, leftValue.toBool with
      | .or, true => return .boolean true
      | .and, false => return .boolean false
      | operator, _ =>
          let rightValue ← right.evaluate focus
          operator.apply focus.document leftValue rightValue
  | .filter nodes predicate => do
      let nodes ← (← nodes.evaluate focus).nodes?
      return .nodes (← keepWhere focus (fun inner => predicate.evaluate inner) nodes)
  | .path start steps => do
      let nodes ← (← start.evaluate focus).nodes?
      return .nodes (← walk focus steps nodes)

def evaluateAll (focus : Focus) (exprs : List Expr) : Option (List Value) :=
  match exprs with
  | [] => some []
  | expr :: exprs => do
      let first ← expr.evaluate focus
      return first :: (← evaluateAll focus exprs)

def walk (focus : Focus) (steps : List Step) (nodes : List Nat) : Option (List Nat) :=
  match steps with
  | [] => some nodes
  | step :: steps => do
      let reached ← nodes.mapM fun node => step.select focus node
      walk focus steps (inOrder reached.flatten)

def Step.select (focus : Focus) (step : Step) (node : Nat) : Option (List Nat) :=
  match step with
  | .mk axis test predicates => do
      let nodes ← (axis.select focus.document node).filterM fun other =>
        test.holds focus axis other
      keepAll focus predicates nodes

def keepAll (focus : Focus) (predicates : List Expr) (nodes : List Nat) : Option (List Nat) :=
  match predicates with
  | [] => some nodes
  | predicate :: predicates => do
      let nodes ← keepWhere focus (fun inner => predicate.evaluate inner) nodes
      keepAll focus predicates nodes

end

def evaluate (expr : Expr) (namespaces : List (String × String)) (document : Document) :
    Option Value :=
  expr.evaluate { document, namespaces, node := 0, position := 1, size := 1 }

end ServiceStub.Xml.XPath
