import ServiceStub.Json.Schema

namespace ServiceStub

inductive TemplateFault where
  | noLeadingSlash
  | parameterNotWholeSegment
  | parameterRepeated
  deriving Repr, DecidableEq

def TemplateFault.message : TemplateFault → String
  | .noLeadingSlash => "a path template must start with '/'"
  | .parameterNotWholeSegment => "a path parameter must span a whole segment"
  | .parameterRepeated => "path parameter names must be unique"

inductive PatternFault where
  | badRegex (expression : String) (error : Regex.Error)
  | badJsonPath (expression : String)
  | badXPath (expression : String)
  | badDateTime (text : String) (format : Option String)
  | unknownOffsetUnit (name : String)
  | unknownTruncation (name : String)
  | badSchema (error : Json.SchemaError)
  | noOperator
  | severalOperators (names : List String)
  | expectedNotJson
  | expectedNotBase64
  | emptyList (operator : String)
  | unknownMatchingType (name : String)
  | badTemplate (template : String) (fault : TemplateFault)
  | parametersWithoutTemplate
  | unknownParameter (name template : String)
  | severalUrls (names : List String)
  deriving Repr, DecidableEq

namespace PatternFault

def invalidDefinition (reason : String) : String := "invalid pattern definition: " ++ reason

def invalidDateTime (text hint : String) : String :=
  "invalid date/time expression '" ++ text ++ "': " ++ hint

def message : PatternFault → String
  | .badRegex expression error =>
      "invalid regular expression '" ++ expression ++ "': " ++ error.message
  | .badJsonPath expression =>
      "invalid JSONPath expression '" ++ expression ++ "': not a JSONPath query"
  | .badXPath expression =>
      "invalid XPath expression '" ++ expression ++ "': not an XPath expression"
  | .badDateTime text none =>
      invalidDateTime text "expected an ISO-8601 date/time or 'now [+|-]<amount> <unit>'"
  | .badDateTime text (some format) =>
      invalidDateTime text ("expected a date/time in format '" ++ format ++ "' or 'now'")
  | .unknownOffsetUnit name => invalidDateTime name "unknown offset unit"
  | .unknownTruncation name => invalidDateTime name "unknown truncation"
  | .badSchema error => "invalid JSON schema: " ++ error.message
  | .noOperator => invalidDefinition "a pattern needs exactly one operator, found none"
  | .severalOperators names =>
      invalidDefinition
        ("a pattern needs exactly one operator, found: " ++ String.intercalate ", " names)
  | .expectedNotJson => invalidDefinition "equalToJson is not valid JSON: not a document"
  | .expectedNotBase64 =>
      invalidDefinition "binaryEqualTo is not valid base64: not in canonical form"
  | .emptyList operator =>
      invalidDefinition ("'" ++ operator ++ "' needs at least one pattern")
  | .unknownMatchingType name =>
      invalidDefinition
        ("unknown multipart matching type '" ++ name ++ "', expected ANY or ALL")
  | .badTemplate template fault => invalidDefinition (template ++ ": " ++ fault.message)
  | .parametersWithoutTemplate =>
      invalidDefinition "path parameters require a urlPathTemplate"
  | .unknownParameter name template =>
      invalidDefinition ("'" ++ name ++ "' is not a parameter of " ++ template)
  | .severalUrls names =>
      "only one URL matching variant may be set, found: " ++ String.intercalate ", " names

end PatternFault

/-- A fault and the path of fields from the definition to the part at fault. -/
structure PatternError where
  path : List String
  fault : PatternFault
  deriving Repr, DecidableEq

namespace PatternError

def ofFault (fault : PatternFault) : PatternError := ⟨[], fault⟩

def within (field : String) (error : PatternError) : PatternError :=
  { error with path := field :: error.path }

def field? (error : PatternError) : Option String :=
  if error.path.isEmpty then none else some (String.intercalate "." error.path)

def message (error : PatternError) : String :=
  match error.field? with
  | none => error.fault.message
  | some field => field ++ ": " ++ error.fault.message

end PatternError

end ServiceStub
