import ServiceStub.Http.Grammar
import ServiceStub.Text.Blank

namespace ServiceStub.Http.Cookie

def pieces (inQuotes : Bool) : List Char → List (List Char)
  | [] => [[]]
  | c :: rest =>
      if c == ';' && !inQuotes then [] :: pieces false rest
      else
        match pieces (if c == '"' then !inQuotes else inQuotes) rest with
        | [] => [[c]]
        | piece :: others => (c :: piece) :: others

def pair? (piece : List Char) : Option (String × String) :=
  (Text.splitOnce '=' piece).map fun (name, value) =>
    (Text.trim (String.ofList name), Text.trim (String.ofList value))

/-- The cookies of all headers that hold cookies, in order.  There are none if one of the
headers holds more than plain text. -/
def parse (values : List String) : List (String × String) :=
  let whole := String.intercalate "; " (values.filter isHeaderValue)
  if isVisibleAscii whole then (pieces false whole.toList).filterMap pair? else []

end ServiceStub.Http.Cookie
