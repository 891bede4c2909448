import ServiceStub.Pattern.Error
import ServiceStub.Uuid

namespace ServiceStub

inductive StateError where
  | invalidPattern (error : PatternError)
  | conflictingUrls (error : PatternError)
  | blankScenarioName
  | stateWithoutScenario
  | duplicateStub (id : Uuid)
  | stubNotFound (id : Uuid)
  | scenarioNotFound (name : String)
  | channelNotFound (id : Uuid)
  deriving Repr, DecidableEq

namespace StateError

/-- Two declared URLs are a fault of the whole definition, any other fault is one of a part. -/
def ofPattern (error : PatternError) : StateError :=
  match error.fault with
  | .severalUrls _ => .conflictingUrls error
  | _ => .invalidPattern error

def invalidStub (reason : String) : String := "invalid stub definition: " ++ reason

def message : StateError → String
  | .invalidPattern error =>
      "invalid pattern at '" ++ error.field?.getD "" ++ "': " ++ error.fault.message
  | .conflictingUrls error => invalidStub error.message
  | .blankScenarioName => invalidStub "scenarioName must not be empty"
  | .stateWithoutScenario => invalidStub "a scenario state was given without a scenarioName"
  | .duplicateStub id => "a stub with id " ++ id.toString ++ " already exists"
  | .stubNotFound id => "no stub with id " ++ id.toString
  | .scenarioNotFound name => "no scenario named '" ++ name ++ "'"
  | .channelNotFound id => "no open channel with id " ++ id.toString

def ofPatternResult {α : Type} (field : String) : Except PatternError α → Except StateError α
  | .ok pattern => .ok pattern
  | .error error => .error (.ofPattern (error.within field))

end StateError

end ServiceStub
