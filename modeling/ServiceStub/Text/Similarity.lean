import ServiceStub.Scalar
import ServiceStub.Text.Case
import ServiceStub.Text.Utf8

namespace ServiceStub.Text

variable {R α : Type} [Scalar R]

def share (count greatest : Nat) : R :=
  if greatest == 0 then Scalar.zero else Scalar.clamp (Scalar.ratio count greatest)

/-- The cells of an edit distance row after its first one. -/
def editCells [BEq α] (symbol : α) : (others : List α) → (diagonal left : Nat) →
    (above : List Nat) → List Nat
  | other :: others, diagonal, left, upper :: above =>
      let cell := if symbol == other then diagonal else 1 + min (min left upper) diagonal
      cell :: editCells symbol others upper cell above
  | _, _, _, _ => []

def editRow [BEq α] (others : List α) (row : List Nat) (symbol : α) : List Nat :=
  match row with
  | [] => []
  | diagonal :: above => (diagonal + 1) :: editCells symbol others diagonal (diagonal + 1) above

def editDistance [BEq α] (left right : List α) : Nat :=
  (left.foldl (editRow right) (List.range (right.length + 1))).getLastD 0

/-- Write over a row.  For each position of `others` it then holds the length of the longest run
that ends there and at `symbol`; `previous` holds these lengths for the symbol before, from the
position before `others` on. -/
def writeRuns [BEq α] (symbol : α) : (others : List α) → (previous stale : List Nat) → List Nat
  | other :: others, diagonal :: previous, _ :: stale =>
      (if symbol == other then diagonal + 1 else 0) :: writeRuns symbol others previous stale
  | _, _, stale => stale

/-- The row of the symbol before, the row before that one, which is written over next, and the
length of the longest run so far. -/
structure RunRows where
  previous : List Nat
  stale : List Nat
  longest : Nat := 0

def RunRows.next [BEq α] (others : List α) (rows : RunRows) (symbol : α) : RunRows :=
  let written := writeRuns symbol others (0 :: rows.previous) rows.stale
  { previous := written, stale := rows.previous, longest := written.foldl max rows.longest }

/-- The length of the longest run of symbols that occurs in both sequences.  The rows go along the
shorter one. -/
def longestCommonRun [BEq α] (left right : List α) : Nat :=
  let (long, short) := if left.length < right.length then (right, left) else (left, right)
  let row := List.replicate short.length 0
  (long.foldl (RunRows.next short) { previous := row, stale := row }).longest

def foldCase (caseSensitive : Bool) (text : String) : String :=
  if caseSensitive then text else lower text

def equals (caseSensitive : Bool) (expected actual : String) : Bool :=
  foldCase caseSensitive expected == foldCase caseSensitive actual

def containsText (caseSensitive : Bool) (expected actual : String) : Bool :=
  contains (foldCase caseSensitive expected).toList (foldCase caseSensitive actual).toList

def listDistance [BEq α] (expected actual : List α) : R :=
  share (editDistance expected actual) (max expected.length actual.length)

def distance (caseSensitive : Bool) (expected actual : String) : R :=
  listDistance (foldCase caseSensitive expected).toList (foldCase caseSensitive actual).toList

def longestCommonSubstring (caseSensitive : Bool) (left right : String) : Nat :=
  longestCommonRun (foldCase caseSensitive left).toList (foldCase caseSensitive right).toList

/-- The share of the longer text that their longest common substring leaves uncovered. -/
def substringDistance (caseSensitive : Bool) (expected actual : String) : R :=
  let longest := max expected.length actual.length
  let common := longestCommonSubstring caseSensitive expected actual
  share (longest - min common longest) longest

def substringSimilarity (caseSensitive : Bool) (expected actual : String) : R :=
  if expected.isEmpty then Scalar.one
  else Scalar.ratio (longestCommonSubstring caseSensitive expected actual) expected.length

end ServiceStub.Text
