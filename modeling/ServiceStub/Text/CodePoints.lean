import ServiceStub.Text.Chars

namespace ServiceStub.Text

structure CodePoints where
  ranges : Array (Nat × Nat)

namespace CodePoints

def readRange (text : List Char) : Nat × Nat :=
  match splitOnce '-' text with
  | some (first, last) => ((hexadecimal? first).getD 0, (hexadecimal? last).getD 0)
  | none => let only := (hexadecimal? text).getD 0; (only, only)

/-- Read ranges such as `41-5A 5F`, in hexadecimal and in ascending order, on any lines. -/
def ofText (text : String) : CodePoints :=
  let pieces := splitAt (fun c => c == ' ' || c == '\n') text.toList
  ⟨((pieces.filter fun piece => !piece.isEmpty).map readRange).toArray⟩

/-- Halve the ranges from `low` up to `high` until the one that could hold the code is left. -/
def search (ranges : Array (Nat × Nat)) (code : Nat) : (fuel low high : Nat) → Bool
  | 0, _, _ => false
  | fuel + 1, low, high =>
      if high ≤ low then false
      else
        let middle := (low + high) / 2
        match ranges[middle]? with
        | none => false
        | some (first, last) =>
            if code < first then search ranges code fuel low middle
            else if last < code then search ranges code fuel (middle + 1) high
            else true

def contains (set : CodePoints) (code : Nat) : Bool :=
  search set.ranges code 32 0 set.ranges.size

end CodePoints

end ServiceStub.Text
