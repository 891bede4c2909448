import ServiceStub.Text.Blank
import ServiceStub.Text.Case

namespace ServiceStub.Text

def titleChars (starts : Bool) : List Char → List Char
  | [] => []
  | c :: rest =>
      if isBlank c then c :: titleChars true rest
      else (if starts then upperChar c else lowerChar c) ++ titleChars false rest

def titleCase (text : String) : String := String.ofList (titleChars true text.toList)

/-- Cut a text that is longer than a number of characters, and mark the cut. -/
def abbreviate (length : Nat) (text : String) : String :=
  let chars := text.toList
  if chars.length ≤ length then text else String.ofList (chars.take length) ++ "..."

end ServiceStub.Text
