import ServiceStub.Text.DisplayWidth

/-! Tables in plain text.  A cell ends at a tab or at the end of its line; cells that end at
tabs and stand below each other without a gap share one width. -/

namespace ServiceStub.Text.Columns

def cells (text : List Char) : List (List (List Char)) :=
  (splitAt (· == '\n') text).map (splitAt (· == '\t'))

def leastWidth : Nat := 2

def gap : List Char := [' ', ' ']

def cellWidth? (column : Nat) (cells : List (List Char)) : Option Nat :=
  if column + 1 < cells.length then cells[column]?.map displayWidth else none

/-- The widest cell at the front of a column, as far as the column reaches. -/
def reach (column : Nat) : List (List (List Char)) → Nat
  | [] => leastWidth
  | line :: lines =>
      match cellWidth? column line with
      | none => leastWidth
      | some width => max width (reach column lines)

/-- Write a line, given the lines before, nearest first, and those after. -/
def alignLine (before after : List (List (List Char))) (column : Nat) :
    List (List Char) → List Char
  | [] => []
  | [last] => last
  | cell :: rest =>
      let width := max (displayWidth cell) (max (reach column before) (reach column after))
      cell ++ List.replicate (width - displayWidth cell) ' ' ++ gap ++
        alignLine before after (column + 1) rest

def alignLines (before : List (List (List Char))) :
    List (List (List Char)) → List (List Char)
  | [] => []
  | line :: after => alignLine before after 0 line :: alignLines (line :: before) after

def align (text : String) : String :=
  String.ofList (['\n'].intercalate (alignLines [] (cells text.toList)))

end ServiceStub.Text.Columns
