import ServiceStub.Json.Parser
import ServiceStub.Server.State

namespace ServiceStub

inductive StubFileError where
  | unreadable
  | notDefinitions (file : String)
  | refused (error : StateError)
  deriving Repr, DecidableEq

structure StubFile where
  name : String
  content : Bytes

namespace StubFile

def readMappings (document : Json) : Option (List HttpStubDefinition) := do
  let record ← Record.ofMembers ["mappings"] document
  record.required "mappings" (Json.listOf? HttpStubDefinition.ofJson)

/-- Read the first form that fits: definitions under the name `mappings`, a list of definitions,
or a single definition. -/
def definitionsOfJson (document : Json) : Option (List HttpStubDefinition) :=
  match readMappings document with
  | some definitions => some definitions
  | none =>
      match Json.listOf? HttpStubDefinition.ofJson document with
      | some definitions => some definitions
      | none => (HttpStubDefinition.ofJson document).map ([·])

def definitionsOfText (text : String) : Option (List HttpStubDefinition) :=
  (Json.parseWritten text).bind definitionsOfJson

/-- What follows the last point of a name, unless the name begins with that point. -/
def extension? (name : String) : Option String :=
  match Text.splitOnce '.' name.toList.reverse with
  | some (_, []) => none
  | some (reversed, _) => some (String.ofList reversed.reverse)
  | none => none

def isStubFile (file : StubFile) : Bool :=
  (extension? file.name).map Text.lower == some "json"

def definitions (file : StubFile) : Except StubFileError (List HttpStubDefinition) :=
  match Text.ofBytes? file.content with
  | none => .error .unreadable
  | some text =>
      match definitionsOfText text with
      | none => .error (.notDefinitions file.name)
      | some definitions => .ok definitions

end StubFile

structure StubDirectory where
  files : Option (List StubFile)

/-- The definitions in a directory, by ascending names of files.  Only files with the extension
`json` are read. -/
def StubDirectory.definitions (directory : StubDirectory) :
    Except StubFileError (List HttpStubDefinition) :=
  match directory.files with
  | none => .error .unreadable
  | some files => do
      let sorted := Assoc.ofList (files.map fun file => (file.name, file))
      let definitions ←
        ((Assoc.values sorted).filter StubFile.isStubFile).mapM StubFile.definitions
      return definitions.flatten

namespace ServerState

/-- Register default stubs one after the other until one is refused. -/
def addDefaultDefinitions (fresh : Nat → Uuid) (state : ServerState) :
    (count : Nat) → List HttpStubDefinition → Except StubFileError Unit × ServerState
  | _, [] => (.ok (), state)
  | count, definition :: rest =>
      match definition.compile (fresh count) with
      | .error error => (.error (.refused error), state)
      | .ok stub =>
          match state.addDefaultStub stub with
          | .error error => (.error (.refused error), state)
          | .ok state => addDefaultDefinitions fresh state (count + 1) rest

/-- Register all stubs of a directory as default stubs, and count them.  Those before a refused
one stay registered. -/
def loadDefaultStubs (fresh : Nat → Uuid) (state : ServerState) (directory : StubDirectory) :
    Except StubFileError Nat × ServerState :=
  match directory.definitions with
  | .error error => (.error error, state)
  | .ok definitions =>
      let (result, state) := state.addDefaultDefinitions fresh 0 definitions
      (result.map fun _ => definitions.length, state)

end ServerState

end ServiceStub
