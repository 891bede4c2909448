import ServiceStub.Json.Basic
import ServiceStub.Text.Diff
import ServiceStub.Total

namespace ServiceStub

inductive Tokenizer where
  | line
  | word
  | character
  deriving Repr, DecidableEq

namespace Tokenizer

def name : Tokenizer → String
  | .line => "Line"
  | .word => "Word"
  | .character => "Character"

def ofName? (name : String) : Option Tokenizer :=
  [line, word, character].find? fun tokenizer => tokenizer.name == name

def lines (current : List Char) : List Char → List String
  | [] => if current.isEmpty then [] else [String.ofList current.reverse]
  | '\r' :: '\n' :: rest => String.ofList ('\n' :: '\r' :: current).reverse :: lines [] rest
  | c :: rest =>
      if c == '\r' || c == '\n' then String.ofList (c :: current).reverse :: lines [] rest
      else lines (c :: current) rest

def words (text : List Char) : List String :=
  (text.splitBy fun left right => Text.isBlank left == Text.isBlank right).map String.ofList

def tokens (tokenizer : Tokenizer) (text : String) : List String :=
  match tokenizer with
  | .line => lines [] text.toList
  | .word => words text.toList
  | .character => text.toList.map String.singleton

end Tokenizer

/-- The differences between two texts and how similar they are: twice the shared tokens by all
tokens. -/
structure TextDiff where
  differences : List (Text.Edit String)
  similarity : Float32
  tokenizer : Tokenizer

namespace TextDiff

def sharedCount (edits : List (Text.Edit String)) : Nat :=
  total (fun
    | .same tokens => tokens.length
    | _ => 0) edits

def ofTexts (tokenizer : Tokenizer) (base edit : String) : TextDiff :=
  let old := tokenizer.tokens base
  let new := tokenizer.tokens edit
  let differences := Text.Diff.edits old new
  let total := old.length + new.length
  let similarity : Float32 :=
    if total == 0 then 1.0
    else 2.0 * Float32.ofNat (sharedCount differences) / Float32.ofNat total
  { differences, similarity, tokenizer }

def editJson (edit : Text.Edit String) : List Json :=
  let each (name : String) (tokens : List String) : List Json :=
    tokens.map fun token => Json.record [(name, some (.string token))]
  match edit with
  | .same tokens => each "Same" tokens
  | .removed tokens => each "Rem" tokens
  | .added tokens => each "Add" tokens

end TextDiff

end ServiceStub
