import ServiceStub.Text.Utf8
import ServiceStub.Text.Chars

namespace ServiceStub.Http

def isTokenChar (c : Char) : Bool := c.isAlphanum || "!#$%&'*+-.^_\x60|~".contains c

def isToken (text : String) : Bool := !text.isEmpty && text.toList.all isTokenChar

def isHeaderValue (text : String) : Bool :=
  text.toList.all fun c => (0x20 ≤ c.toNat && c.toNat != 0x7F) || c == '\t'

def isVisibleAscii (text : String) : Bool :=
  text.toList.all fun c => (0x20 ≤ c.toNat && c.toNat < 0x7F) || c == '\t'

abbrev Headers := List (String × String)

namespace Headers

/-- The values of a header in order, its name taken without regard to case. -/
def values (headers : Headers) (name : String) : List String :=
  (headers.filter fun header => Text.equalsIgnoringAsciiCase header.1 name).map Prod.snd

end Headers

def lowerName (name : String) : String := String.ofList (name.toList.map Text.asciiLower)

end ServiceStub.Http
