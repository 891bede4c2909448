import ServiceStub.Text.Utf8
import ServiceStub.Text.Chars

namespace ServiceStub.Http.Form

def hexByte? (high low : UInt8) : Option UInt8 := do
  let high ← Text.hexDigit? (Char.ofNat high.toNat)
  let low ← Text.hexDigit? (Char.ofNat low.toNat)
  return UInt8.ofNat (high * 16 + low)

/-- Decode `%` followed by two hexadecimal digits; any other `%` stands for itself. -/
def percentDecode : Bytes → Bytes
  | 0x25 :: high :: low :: rest =>
      match hexByte? high low with
      | some byte => byte :: percentDecode rest
      | none => 0x25 :: percentDecode (high :: low :: rest)
  | byte :: rest => byte :: percentDecode rest
  | [] => []

def decode (bytes : Bytes) : String :=
  Text.ofBytesLossy (percentDecode (bytes.map fun byte => if byte == 0x2B then 0x20 else byte))

/-- The pairs of a name and a value between ampersands; a name without `=` has an empty
value. -/
def parse (bytes : Bytes) : List (String × String) :=
  ((Text.splitAt (· == 0x26) bytes).filter fun pair => !pair.isEmpty).map fun pair =>
    match Text.splitOnce 0x3D pair with
    | some (name, value) => (decode name, decode value)
    | none => (decode pair, "")

end ServiceStub.Http.Form
