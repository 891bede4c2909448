/-!
XML documents: the tree a text denotes, and the same tree as a table of nodes in document
order, in which every node knows its parent and the end of its subtree.
-/

namespace ServiceStub.Xml

structure Name where
  uri : Option String
  localPart : String
  written : String
  deriving Repr, DecidableEq

structure Attribute where
  name : Name
  value : String
  deriving Repr, DecidableEq

/-- A node and what it contains; a declaration is a prefix and its namespace. -/
inductive Tree where
  | element (name : Name) (declarations : List (String × String)) (attributes : List Attribute)
      (children : List Tree)
  | text (content : String)
  | comment (content : String)
  | instruction (target content : String)

inductive Kind where
  | root
  | element (name : Name)
  | declaration (pfx uri : String)
  | attr (held : Attribute)
  | text (content : String)
  | comment (content : String)
  | instruction (target content : String)
  deriving Repr, DecidableEq

/-- A row of the table: `stop` is the position after the last node of the subtree. -/
structure Node where
  kind : Kind
  parent : Option Nat
  stop : Nat
  deriving Repr

abbrev Document := Array Node

namespace Document

def addRow (document : Document) (kind : Kind) (parent : Nat) : Document :=
  document.push { kind, parent := some parent, stop := document.size + 1 }

def close (document : Document) (position : Nat) : Document :=
  document.modify position fun node => { node with stop := document.size }

mutual

def addTree (scope : List (String × String)) (document : Document) (parent : Nat) :
    Tree → Document
  | .element name declarations attributes children =>
      let position := document.size
      let scope := declarations ++
        scope.filter fun entry => (declarations.lookup entry.1).isNone
      let document := document.addRow (.element name) parent
      let document := scope.foldl
        (fun document entry => document.addRow (.declaration entry.1 entry.2) position) document
      let document := attributes.foldl
        (fun document held => document.addRow (.attr held) position) document
      (addTrees scope document position children).close position
  | .text content => document.addRow (.text content) parent
  | .comment content => document.addRow (.comment content) parent
  | .instruction target content => document.addRow (.instruction target content) parent

def addTrees (scope : List (String × String)) (document : Document) (parent : Nat) :
    List Tree → Document
  | [] => document
  | tree :: trees => addTrees scope (addTree scope document parent tree) parent trees

end

def ofTrees (trees : List Tree) : Document :=
  (addTrees [] #[⟨.root, none, 1⟩] 0 trees).close 0

def kindAt (document : Document) (position : Nat) : Kind :=
  match document[position]? with
  | some node => node.kind
  | none => .root

def parentOf (document : Document) (position : Nat) : Option Nat :=
  document[position]?.bind Node.parent

def stopOf (document : Document) (position : Nat) : Nat :=
  match document[position]? with
  | some node => node.stop
  | none => position

def isAttached (document : Document) (position : Nat) : Bool :=
  match document.kindAt position with
  | .attr _ => true
  | .declaration _ _ => true
  | _ => false

/-- The nodes inside a node, attributes and declarations apart. -/
def descendants (document : Document) (position : Nat) : List Nat :=
  ((List.range (document.stopOf position - position - 1)).map (position + 1 + ·)).filter
    fun inner => !document.isAttached inner

def children (document : Document) (position : Nat) : List Nat :=
  (document.descendants position).filter fun inner => document.parentOf inner == some position

def attached (document : Document) (position : Nat) (wanted : Kind → Bool) : List Nat :=
  ((List.range (document.stopOf position - position - 1)).map (position + 1 + ·)).filter
    fun inner => document.parentOf inner == some position && wanted (document.kindAt inner)

/-- The nodes around a node, from the nearest to the root. -/
def ancestors (document : Document) (fuel position : Nat) : List Nat :=
  match fuel with
  | 0 => []
  | fuel + 1 =>
      match document.parentOf position with
      | none => []
      | some parent => parent :: ancestors document fuel parent

/-- The text of a node: its own, or all text inside it. -/
def stringValue (document : Document) (position : Nat) : String :=
  match document.kindAt position with
  | .attr held => held.value
  | .declaration _ uri => uri
  | .text content => content
  | .comment content => content
  | .instruction _ content => content
  | _ =>
      String.join <| (document.descendants position).map fun inner =>
        match document.kindAt inner with
        | .text content => content
        | _ => ""

end Document

end ServiceStub.Xml
