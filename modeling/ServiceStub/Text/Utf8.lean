namespace ServiceStub

abbrev Bytes := List UInt8

namespace Text

def replacement : Char := '\ufffd'

def toBytes (text : String) : Bytes := text.toUTF8.data.toList

def ofBytes? (bytes : Bytes) : Option String := String.fromUTF8? ⟨bytes.toArray⟩

/-- How many bytes follow a leading byte, and the range of the first of them. -/
def followers? (lead : UInt8) : Option (Nat × UInt8 × UInt8) :=
  if 0xC2 ≤ lead && lead ≤ 0xDF then some (1, 0x80, 0xBF)
  else if lead == 0xE0 then some (2, 0xA0, 0xBF)
  else if lead == 0xED then some (2, 0x80, 0x9F)
  else if 0xE1 ≤ lead && lead ≤ 0xEF then some (2, 0x80, 0xBF)
  else if lead == 0xF0 then some (3, 0x90, 0xBF)
  else if 0xF1 ≤ lead && lead ≤ 0xF3 then some (3, 0x80, 0xBF)
  else if lead == 0xF4 then some (3, 0x80, 0x8F)
  else none

def isContinuation (byte : UInt8) : Bool := 0x80 ≤ byte && byte ≤ 0xBF

def joinBits (lead : Nat) (continuations : List UInt8) : Char :=
  Char.ofNat (continuations.foldl (fun code byte => code * 64 + byte.toNat % 64) lead)

/-- Decode bytes, with one replacement character for each longest run of bytes that begins a
character and does not complete it, and for each byte that begins none. -/
def decodeBytes : Bytes → List Char
  | [] => []
  | lead :: rest =>
      if lead < 0x80 then Char.ofNat lead.toNat :: decodeBytes rest
      else
        match followers? lead with
        | none => replacement :: decodeBytes rest
        | some (count, low, high) =>
            match rest with
            | [] => [replacement]
            | second :: rest =>
                if !(low ≤ second && second ≤ high) then
                  replacement :: decodeBytes (second :: rest)
                else if count == 1 then
                  joinBits (lead.toNat % 32) [second] :: decodeBytes rest
                else
                  match rest with
                  | [] => [replacement]
                  | third :: rest =>
                      if !isContinuation third then
                        replacement :: decodeBytes (third :: rest)
                      else if count == 2 then
                        joinBits (lead.toNat % 16) [second, third] :: decodeBytes rest
                      else
                        match rest with
                        | [] => [replacement]
                        | fourth :: rest =>
                            if !isContinuation fourth then
                              replacement :: decodeBytes (fourth :: rest)
                            else
                              joinBits (lead.toNat % 8) [second, third, fourth] ::
                                decodeBytes rest
termination_by bytes => bytes.length

/-- Where bytes stop encoding a text: `length` bytes begin no character, or the bytes end
within one. -/
structure Utf8Fault where
  position : Nat
  length : Option Nat
  deriving Repr, DecidableEq

def Utf8Fault.message (fault : Utf8Fault) : String :=
  match fault.length with
  | some length =>
      "invalid utf-8 sequence of " ++ toString length ++ " bytes from index " ++
        toString fault.position
  | none => "incomplete utf-8 byte sequence from index " ++ toString fault.position

def continuations : (wanted : Nat) → (low high : UInt8) → Bytes → Nat
  | 0, _, _, _ => 0
  | _, _, _, [] => 0
  | wanted + 1, low, high, byte :: rest =>
      if low ≤ byte && byte ≤ high then continuations wanted 0x80 0xBF rest + 1 else 0

def firstFaultFrom (fuel position : Nat) (bytes : Bytes) : Utf8Fault :=
  match fuel, bytes with
  | 0, _ => ⟨position, none⟩
  | _, [] => ⟨position, none⟩
  | fuel + 1, lead :: rest =>
      if lead < 0x80 then firstFaultFrom fuel (position + 1) rest
      else
        match followers? lead with
        | none => ⟨position, some 1⟩
        | some (count, low, high) =>
            let found := continuations count low high rest
            if found == count then
              firstFaultFrom fuel (position + 1 + count) (rest.drop count)
            else if found == rest.length then ⟨position, none⟩
            else ⟨position, some (found + 1)⟩

def firstFault (bytes : Bytes) : Utf8Fault := firstFaultFrom (bytes.length + 1) 0 bytes

def ofBytesLossy (bytes : Bytes) : String :=
  match ofBytes? bytes with
  | some text => text
  | none => String.ofList (decodeBytes bytes)

end Text

end ServiceStub
