namespace ServiceStub.Xml.XPath

inductive Axis where
  | ancestor
  | ancestorOrSelf
  | attributes
  | child
  | descendant
  | descendantOrSelf
  | following
  | followingSibling
  | namespaces
  | parent
  | preceding
  | precedingSibling
  | self
  deriving Repr, DecidableEq

/-- Which of the nodes on an axis a step keeps.  A name without a local part is a wildcard. -/
inductive NodeTest where
  | name (pfx localPart : Option String)
  | node
  | text
  | comment
  | instruction (target : Option String)
  deriving Repr, DecidableEq

inductive Operator where
  | or
  | and
  | equal
  | notEqual
  | less
  | lessOrEqual
  | greater
  | greaterOrEqual
  | add
  | subtract
  | multiply
  | divide
  | modulo
  | union
  deriving Repr, DecidableEq

mutual

inductive Expr where
  | number (value : Float)
  | literal (text : String)
  | reference (name : String)
  | root
  | current
  | call (name : String) (arguments : List Expr)
  | negate (operand : Expr)
  | binary (operator : Operator) (left right : Expr)
  | filter (nodes predicate : Expr)
  | path (start : Expr) (steps : List Step)

inductive Step where
  | mk (axis : Axis) (test : NodeTest) (predicates : List Expr)

end

end ServiceStub.Xml.XPath
