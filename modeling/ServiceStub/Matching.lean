/-! Largest pairings between rows and columns, by augmenting paths. -/

namespace ServiceStub.Matching

/-- The columns visited in a search, and the row each column is paired with. -/
structure Pairing where
  seen : List Nat
  owner : List (Option Nat)

namespace Pairing

def assign (pairing : Pairing) (column row : Nat) : Pairing :=
  { pairing with owner := pairing.owner.set column (some row) }

end Pairing

def edge (edges : List (List Bool)) (row column : Nat) : Bool :=
  (edges.getD row []).getD column false

/-- Pair a row with the first free column, or with one whose row `reassign` moves elsewhere. -/
def pairWith (edges : List (List Bool)) (reassign : Nat → Pairing → Bool × Pairing)
    (row : Nat) : (columns : List Nat) → Pairing → Bool × Pairing
  | [], pairing => (false, pairing)
  | column :: columns, pairing =>
      if edge edges row column && !pairing.seen.contains column then
        let pairing := { pairing with seen := column :: pairing.seen }
        match pairing.owner.getD column none with
        | none => (true, pairing.assign column row)
        | some other =>
            let (moved, pairing) := reassign other pairing
            if moved then (true, pairing.assign column row)
            else pairWith edges reassign row columns pairing
      else pairWith edges reassign row columns pairing

/-- Find a column for a row, moving at most `depth` rows. -/
def augment (edges : List (List Bool)) (columnCount : Nat) :
    (depth row : Nat) → Pairing → Bool × Pairing
  | 0, _, pairing => (false, pairing)
  | depth + 1, row, pairing =>
      pairWith edges (augment edges columnCount depth) row (List.range columnCount) pairing

/-- Find columns for rows one after the other; how many were paired, and with which. -/
def pairRows (edges : List (List Bool)) (columnCount : Nat) :
    (rows : List Nat) → (owner : List (Option Nat)) → Nat × List (Option Nat)
  | [], owner => (0, owner)
  | row :: rows, owner =>
      let (paired, pairing) := augment edges columnCount (columnCount + 1) row ⟨[], owner⟩
      let (count, owner) := pairRows edges columnCount rows pairing.owner
      ((if paired then count + 1 else count), owner)

/-- The size of a largest set of true cells no two of which share a row or a column. -/
def maximum (edges : List (List Bool)) (columnCount : Nat) : Nat :=
  (pairRows edges columnCount (List.range edges.length) (List.replicate columnCount none)).1

end ServiceStub.Matching
