import ServiceStub.Text.Case
import ServiceStub.Regex.Categories
import ServiceStub.Regex.FoldTable
import ServiceStub.Regex.Properties
import ServiceStub.Regex.Scripts

namespace ServiceStub.Regex

open Text (CodePoints)

/-- The character that stands for all characters differing only in case. -/
def foldCode (code : Nat) : Nat := (Text.mappedBy? foldRows code).getD code

def sameLetters (code : Nat) : List Nat :=
  let folded := foldCode code
  folded :: foldRows.filterMap fun (first, last, step, shift) =>
    let source := (folded : Int) - shift
    if (first : Int) ≤ source && source ≤ last && (source - first) % step == 0 then
      some source.toNat
    else none

def sameBasicLetters (code : Nat) : List Nat :=
  if 0x41 ≤ code && code ≤ 0x5A then [code, code + 32]
  else if 0x61 ≤ code && code ≤ 0x7A then [code, code - 32]
  else [code]

inductive CharSet where
  | range (first last : Nat)
  | codePoints (set : CodePoints)
  | complement (set : CharSet)
  | union (left right : CharSet)
  | intersection (left right : CharSet)
  | difference (left right : CharSet)
  | symmetricDifference (left right : CharSet)
  | folded (set : CharSet) (allLetters : Bool)

namespace CharSet

def empty : CharSet := .range 1 0

def single (c : Char) : CharSet := .range c.toNat c.toNat

def contains : CharSet → Nat → Bool
  | .range first last, code => first ≤ code && code ≤ last
  | .codePoints set, code => set.contains code
  | .complement set, code => !set.contains code
  | .union left right, code => left.contains code || right.contains code
  | .intersection left right, code => left.contains code && right.contains code
  | .difference left right, code => left.contains code && !right.contains code
  | .symmetricDifference left right, code => left.contains code != right.contains code
  | .folded set allLetters, code =>
      (if allLetters then sameLetters code else sameBasicLetters code).any set.contains

def unionOf (sets : List CharSet) : CharSet :=
  match sets with
  | [] => .empty
  | [set] => set
  | set :: sets => .union set (unionOf sets)

def isBasic (set : CharSet) : Bool :=
  (List.range 128).all fun offset => !set.contains (128 + offset)

def weight : CharSet → Nat
  | .range _ _ => 1
  | .codePoints set => set.ranges.size
  | .complement set => set.weight + 1
  | .union left right => left.weight + right.weight
  | .intersection left right => left.weight + right.weight
  | .difference left right => left.weight + right.weight
  | .symmetricDifference left right => left.weight + right.weight
  | .folded set _ => 2 * set.weight

end CharSet

/-- A name without its spaces, hyphens, underscores and case, and without a leading `is`. -/
def plainName (name : List Char) : String :=
  let lowered := name.map Text.asciiLower
  let isPrefixed := lowered.take 2 == ['i', 's']
  let body := if isPrefixed then lowered.drop 2 else lowered
  let plain := body.filter fun c =>
    c != ' ' && c != '_' && c != '-' && c.toNat < 0x80
  String.ofList (if isPrefixed && plain == ['c'] then ['i', 's', 'c'] else plain)

def lookUp? (table : List (List String × String)) (name : String) : Option CharSet :=
  (table.find? fun entry => entry.1.contains name).map fun entry =>
    .codePoints (CodePoints.ofText entry.2)

def category? (name : String) : Option CharSet :=
  if name == "any" then some (.range 0 0x10FFFF)
  else if name == "ascii" then some (.range 0 0x7F)
  else if name == "assigned" then (lookUp? categories "cn").map .complement
  else
    match categoryGroups.find? fun entry => entry.1.contains name with
    | some (_, members) => some (.unionOf (members.filterMap (lookUp? categories)))
    | none => lookUp? categories name

/-- The set a bare property name denotes: a property, else a category, else a script. -/
def namedSet? (name : List Char) : Option CharSet :=
  let plain := plainName name
  let property :=
    if plain == "cf" || plain == "sc" || plain == "lc" then none else lookUp? properties plain
  property <|> category? plain <|> lookUp? scripts plain

def valuedSet? (property value : List Char) : Option CharSet :=
  let property := plainName property
  let value := plainName value
  if property == "gc" || property == "generalcategory" then category? value
  else if property == "sc" || property == "script" then lookUp? scripts value
  else if property == "scx" || property == "scriptextensions" then lookUp? scriptExtensions value
  else none

def wordSet : CharSet :=
  .unionOf (["alpha", "joinc"].filterMap (lookUp? properties) ++
    ["mc", "me", "mn", "nd", "pc"].filterMap (lookUp? categories))

def digitSet : CharSet := (lookUp? categories "nd").getD .empty

def spaceSet : CharSet := (lookUp? properties "wspace").getD .empty

def basicWordSet : CharSet :=
  .unionOf [.range 0x30 0x39, .range 0x41 0x5A, .range 0x5F 0x5F, .range 0x61 0x7A]

def basicDigitSet : CharSet := .range 0x30 0x39

def basicSpaceSet : CharSet := .unionOf [.range 9 13, .range 0x20 0x20]

def bracketClasses : List (String × CharSet) :=
  let upper := .range 0x41 0x5A
  let lower := .range 0x61 0x7A
  let digit := .range 0x30 0x39
  [("alnum", .unionOf [digit, upper, lower]), ("alpha", .unionOf [upper, lower]),
    ("ascii", .range 0 0x7F), ("blank", .unionOf [.range 9 9, .range 0x20 0x20]),
    ("cntrl", .unionOf [.range 0 0x1F, .range 0x7F 0x7F]), ("digit", digit),
    ("graph", .range 0x21 0x7E), ("lower", lower), ("print", .range 0x20 0x7E),
    ("punct", .unionOf [.range 0x21 0x2F, .range 0x3A 0x40, .range 0x5B 0x60, .range 0x7B 0x7E]),
    ("space", basicSpaceSet), ("upper", upper), ("word", basicWordSet),
    ("xdigit", .unionOf [digit, .range 0x41 0x46, .range 0x61 0x66])]

end ServiceStub.Regex
