import ServiceStub.Decimal.Reader
import ServiceStub.Decimal.Text
import ServiceStub.Stub.Http
import ServiceStub.Stub.NearMiss

namespace ServiceStub

/-- How a single-precision number is written in a document: by its own shortest digits, or by
those of the double that it is widened to. -/
inductive SingleStyle where
  | shortest
  | widened
  deriving Repr, DecidableEq

def SingleStyle.toJson (style : SingleStyle) (value : Float32) : Json :=
  match style with
  | .shortest =>
      Json.ofFloat ((Decimal.ofText? (Decimal.jsonText32 value).toList).getD value.toFloat)
  | .widened => Json.ofFloat value.toFloat

def TextDiff.toJson (style : SingleStyle) (diff : TextDiff) : Json :=
  Json.record
    [("differences", some (.array (diff.differences.flatMap TextDiff.editJson))),
      ("distance", some (style.toJson diff.similarity)),
      ("tokenizer", some (.string diff.tokenizer.name))]

def FieldMatch.toJson (diff : Option Json) (row : FieldMatch Float) : Json :=
  Json.record
    [("field", some (.string row.field)), ("operator", some (.string row.operator)),
      ("expected", some (.string row.expected)),
      ("actual", some (.ofOption .string row.actual)),
      ("distance", some (.ofFloat row.result.distance)),
      ("is_exact_match", some (.bool row.result.isExact)), ("diff", diff)]

def MatchReport.rowsJson (style : SingleStyle) (report : MatchReport Float) : Json :=
  .array (report.rows.map fun row => row.toJson (row.diff.map (TextDiff.toJson style)))

def NearMiss.toJson {α : Type} (style : SingleStyle) (name : String) (encode : α → Json)
    (nearMiss : NearMiss α Float) : Json :=
  Json.record
    [(name, some (encode nearMiss.subject)),
      ("distance", some (.ofFloat nearMiss.report.distance)),
      ("diff", some (nearMiss.report.rowsJson style))]

def NearMiss.document (request : Http.Request) (nearMisses : List (NearMiss HttpStub Float)) :
    Json :=
  Json.record
    [("request", some request.toJson),
      ("nearMisses",
        some (.array (nearMisses.map (NearMiss.toJson .widened "stub" HttpStub.toJson))))]

end ServiceStub
