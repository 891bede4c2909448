namespace ServiceStub.Text

variable {α : Type}

def stripStart? [BEq α] : (start : List α) → List α → Option (List α)
  | [], rest => some rest
  | _ :: _, [] => none
  | wanted :: start, found :: rest =>
      if wanted == found then stripStart? start rest else none

def stripEnd? [BEq α] (finish whole : List α) : Option (List α) :=
  (stripStart? finish.reverse whole.reverse).map List.reverse

def indexOf? [BEq α] (needle : List α) : List α → Option Nat
  | [] => if needle.isEmpty then some 0 else none
  | head :: tail =>
      if needle.isPrefixOf (head :: tail) then some 0
      else (indexOf? needle tail).map (· + 1)

def contains [BEq α] (needle hay : List α) : Bool := (indexOf? needle hay).isSome

def splitOnce [BEq α] (separator : α) (whole : List α) : Option (List α × List α) :=
  match whole.dropWhile (fun symbol => !(symbol == separator)) with
  | [] => none
  | _ :: rest => some (whole.takeWhile (fun symbol => !(symbol == separator)), rest)

/-- The pieces between the separators; one more piece than there are separators. -/
def splitAt (isSeparator : α → Bool) : List α → List (List α)
  | [] => [[]]
  | head :: tail =>
      if isSeparator head then [] :: splitAt isSeparator tail
      else
        match splitAt isSeparator tail with
        | [] => [[head]]
        | piece :: pieces => (head :: piece) :: pieces

def trimStart (isBlank : α → Bool) (whole : List α) : List α := whole.dropWhile isBlank

def trimEnd (isBlank : α → Bool) (whole : List α) : List α :=
  (whole.reverse.dropWhile isBlank).reverse

def trimBoth (isBlank : α → Bool) (whole : List α) : List α :=
  trimEnd isBlank (trimStart isBlank whole)

def asciiLower (c : Char) : Char := if 'A' ≤ c && c ≤ 'Z' then Char.ofNat (c.toNat + 32) else c

/-- Equality that takes `A` to `Z` and `a` to `z` as the same letters. -/
def equalsIgnoringAsciiCase (left right : String) : Bool :=
  left.toList.map asciiLower == right.toList.map asciiLower

/-- The number a run of decimal digits denotes; nothing for an empty run or another sign. -/
def decimal? (digits : List Char) : Option Nat :=
  if digits.isEmpty then none
  else
    digits.foldl
      (fun value digit =>
        value.bind fun value =>
          if digit.isDigit then some (value * 10 + (digit.toNat - 48)) else none)
      (some 0)

def signedDecimal? (least greatest : Int) (text : List Char) : Option Int :=
  let value :=
    match text with
    | '-' :: digits => (decimal? digits).map fun magnitude => -(magnitude : Int)
    | '+' :: digits => (decimal? digits).map fun magnitude => (magnitude : Int)
    | digits => (decimal? digits).map fun magnitude => (magnitude : Int)
  value.filter fun value => least ≤ value && value ≤ greatest

def hexDigit? (digit : Char) : Option Nat :=
  if digit.isDigit then some (digit.toNat - 48)
  else if 'a' ≤ digit && digit ≤ 'f' then some (digit.toNat - 87)
  else if 'A' ≤ digit && digit ≤ 'F' then some (digit.toNat - 55)
  else none

def hexadecimal? (digits : List Char) : Option Nat :=
  if digits.isEmpty then none
  else
    digits.foldl
      (fun value digit =>
        value.bind fun value => (hexDigit? digit).map fun digit => value * 16 + digit)
      (some 0)

/-- The digits of a number in a base, most significant first, at least one of them. -/
def digitsOf (base number : Nat) : List Nat :=
  if _small : number < base ∨ base < 2 then [number]
  else digitsOf base (number / base) ++ [number % base]
termination_by number
decreasing_by
  have : 2 ≤ base := by omega
  exact Nat.div_lt_self (by omega) (by omega)

def decimalDigits (number : Nat) : List Char :=
  (digitsOf 10 number).map fun digit => Char.ofNat (48 + digit)

end ServiceStub.Text
