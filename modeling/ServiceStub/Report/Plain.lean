import ServiceStub.Decimal.Text
import ServiceStub.Stub.Http
import ServiceStub.Stub.NearMiss
import ServiceStub.Text.Columns
import ServiceStub.Text.Title

/-! Near misses as a text for people: a table for each stub, and below it the differences of the
fields that do not match. -/

namespace ServiceStub.Report

def line (text : String) : String := text ++ "\n"

def rule (c : Char) (length : Nat) : String := line (String.ofList (List.replicate length c))

def greatestLength : Nat := 80

def singleLine (value : String) : String :=
  Text.abbreviate greatestLength <| String.ofList <|
    value.toList.flatMap fun c => if c == '\n' then ['\\', 'n'] else [c]

def header (index : Nat) (nearMiss : NearMiss HttpStub Float) : String :=
  let stub := nearMiss.subject
  let label :=
    match stub.name with
    | none => stub.id.toString
    | some name => name ++ " (" ++ stub.id.toString ++ ")"
  rule '-' 60 ++
    line (toString (index + 1) ++ " : " ++ Text.titleCase "closest stub" ++ " " ++ label ++
      " (distance " ++ Decimal.fixedText 3 nearMiss.report.distance ++ ")") ++
    rule '-' 60

def row (field : FieldMatch Float) : String :=
  line <| String.intercalate "\t"
    [field.field, "[" ++ field.operator ++ "]", singleLine field.expected,
      singleLine (field.actual.getD "<absent>"),
      if field.result.isExact then "" else "<<<<< no match"]

/-- Each token of an edit on a line of its own, behind a mark for what happens to it. -/
def editLines (edit : Text.Edit String) : String :=
  let marked (mark : String) (tokens : List String) : String :=
    String.join <| tokens.map fun token =>
      line (mark ++ "| " ++ String.ofList (Text.trimEnd Text.isBlank token.toList))
  match edit with
  | .same tokens => marked "   " tokens
  | .added tokens => marked "+++" tokens
  | .removed tokens => marked "---" tokens

def difference (field : FieldMatch Float) : String :=
  match field.diff with
  | none => ""
  | some diff =>
      line "" ++ line ("Diff (" ++ field.field ++ "):") ++
        String.join (diff.differences.map editLines)

def stubSection (index : Nat) (nearMiss : NearMiss HttpStub Float) : String :=
  header index nearMiss ++ line "Field\tOperator\tExpected\tActual\t" ++
    String.join (nearMiss.report.rows.map row) ++
    String.join (nearMiss.report.rows.map difference) ++ line ""

def endWithLineBreak (text : String) : String :=
  line (String.ofList (Text.trimEnd (fun c => c == '\n' || c == '\r') text.toList))

def plainText (request : Http.Request) (nearMisses : List (NearMiss HttpStub Float)) : String :=
  let sections :=
    if nearMisses.isEmpty then line "No stubs are registered."
    else String.join ((nearMisses.zipIdx).map fun (nearMiss, index) => stubSection index nearMiss)
  endWithLineBreak <| Text.Columns.align <|
    line "Request was not matched" ++ rule '=' 23 ++ line request.summary ++ line "" ++ sections

end ServiceStub.Report
