import ServiceStub.Report.Summary
import ServiceStub.Server.Handler
import ServiceStub.Stub.File

/-! Faults as documents: the name of the kind of fault, and its message. -/

namespace ServiceStub

open Json (entry)

def Json.ofFault (kind : String) (entries : List (String × Json)) : Json :=
  .ofEntries (entry "error" kind :: entries)

def PatternFault.kind : PatternFault → String
  | .badRegex _ _ => "InvalidRegex"
  | .badJsonPath _ => "InvalidJsonPath"
  | .badXPath _ => "InvalidXPath"
  | .badDateTime _ _ => "InvalidDateTime"
  | .unknownOffsetUnit _ => "InvalidDateTime"
  | .unknownTruncation _ => "InvalidDateTime"
  | .badSchema _ => "InvalidJsonSchema"
  | .severalUrls _ => "ConflictingUrlVariants"
  | _ => "InvalidDefinition"

instance : Summary PatternError where
  summary error :=
    .ofFault error.fault.kind [entry "field" error.field?, entry "message" error.message]

def StateError.kind : StateError → String
  | .invalidPattern _ => "InvalidPattern"
  | .conflictingUrls _ => "InvalidStubDefinition"
  | .blankScenarioName => "InvalidStubDefinition"
  | .stateWithoutScenario => "InvalidStubDefinition"
  | .duplicateStub _ => "DuplicateStubId"
  | .stubNotFound _ => "StubNotFound"
  | .scenarioNotFound _ => "ScenarioNotFound"
  | .channelNotFound _ => "ChannelNotFound"

instance : Summary StateError where
  summary error := .ofFault error.kind [entry "message" error.message]

def Http.ResponseFault.kind : Http.ResponseFault → String
  | .bodyNotBase64 => "BodyDecodingError"
  | .badStatus => "ResponseConversionError"
  | .badHeader => "ResponseConversionError"

instance : Summary Http.ResponseFault where
  summary fault := .ofFault fault.kind [entry "message" fault.message]

instance : Summary Http.Incoming.Fault where
  summary fault := .ofFault "RequestConversionError" [entry "message" fault.message]

def HandlerFault.kind : HandlerFault → String
  | .badRequest _ => "RequestConversionError"
  | .badStubResponse _ => "StubResponseError"

instance : Summary HandlerFault where
  summary fault := .ofFault fault.kind [entry "message" fault.message]

instance : Summary StubFileError where
  summary
    | .unreadable => .ofFault "FileReadError" []
    | .notDefinitions file => .ofFault "DeserializationError" [entry "file" file]
    | .refused error => .ofFault "StateError" [entry "cause" error]

end ServiceStub
