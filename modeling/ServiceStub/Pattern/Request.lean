import ServiceStub.FieldMatch
import ServiceStub.Pattern.Multipart
import ServiceStub.Pattern.Url

namespace ServiceStub

/-- Predicates over a request.  What is not declared is not evaluated. -/
structure RequestPattern where
  method : Option String := none
  url : UrlPattern := .any
  host : Option Pattern := none
  port : Option Nat := none
  scheme : Option String := none
  headers : List (String × MultiValuePattern) := []
  queryParameters : List (String × MultiValuePattern) := []
  formParameters : List (String × MultiValuePattern) := []
  cookies : List (String × Pattern) := []
  pathParameters : List (String × Pattern) := []
  bodies : List Pattern := []
  multiparts : List MultipartPattern := []

namespace RequestPattern

def any : RequestPattern := {}

/-- Require a method, where `ANY` stands for all of them. -/
def withMethod (pattern : RequestPattern) (method : String) : RequestPattern :=
  let method := Text.upper method
  { pattern with method := if method == "ANY" then none else some method }

def withScheme (pattern : RequestPattern) (scheme : String) : RequestPattern :=
  { pattern with scheme := some (Text.lower scheme) }

def withHeader (pattern : RequestPattern) (name : String) (value : MultiValuePattern) :
    RequestPattern :=
  { pattern with headers := Assoc.insert name value pattern.headers }

def withQueryParameter (pattern : RequestPattern) (name : String) (value : MultiValuePattern) :
    RequestPattern :=
  { pattern with queryParameters := Assoc.insert name value pattern.queryParameters }

def withFormParameter (pattern : RequestPattern) (name : String) (value : MultiValuePattern) :
    RequestPattern :=
  { pattern with formParameters := Assoc.insert name value pattern.formParameters }

def withCookie (pattern : RequestPattern) (name : String) (value : Pattern) : RequestPattern :=
  { pattern with cookies := Assoc.insert name value pattern.cookies }

/-- Require a value of a path parameter; without a template that has it there is none. -/
def withPathParameter (pattern : RequestPattern) (name : String) (value : Pattern) :
    RequestPattern :=
  { pattern with pathParameters := Assoc.insert name value pattern.pathParameters }

def withBody (pattern : RequestPattern) (body : Pattern) : RequestPattern :=
  { pattern with bodies := pattern.bodies ++ [body] }

def ofMethod (method : String) (url : UrlPattern) : RequestPattern :=
  ({ url } : RequestPattern).withMethod method

def predicateCount (pattern : RequestPattern) : Nat :=
  let one (declared : Bool) : Nat := if declared then 1 else 0
  let several (table : List (String × MultiValuePattern)) : Nat :=
    total (fun entry => entry.2.predicateCount) table
  let single (table : List (String × Pattern)) : Nat :=
    total (fun entry => entry.2.predicateCount) table
  one pattern.method.isSome + one (!pattern.url.isAny) +
    (pattern.host.map Pattern.predicateCount).getD 0 + one pattern.port.isSome +
    one pattern.scheme.isSome + several pattern.headers + several pattern.queryParameters +
    several pattern.formParameters + single pattern.cookies + single pattern.pathParameters +
    total Pattern.predicateCount pattern.bodies +
    total MultipartPattern.predicateCount pattern.multiparts

variable {R : Type} [Scalar R]

def urlWeight : R := Scalar.ofNat 10

def methodWeight : R := Scalar.ofNat 3

def equalityRow (field expected actual : String) (holds : Bool) (weight : R) : FieldMatch R :=
  { field, operator := "equalTo", expected, actual := some actual, result := .of holds, weight }

def singleRow (now : Calendar.Instant) (field : String) (pattern : Pattern)
    (actual : Option String) : FieldMatch R :=
  { field, operator := pattern.operator, expected := pattern.expected, actual,
    result := pattern.evaluate now actual, weight := Scalar.one }

def severalRow (now : Calendar.Instant) (group : String) (name : String)
    (pattern : MultiValuePattern) (values : List String) : FieldMatch R :=
  { field := group ++ "." ++ name, operator := pattern.operator, expected := pattern.expected,
    actual := if values.isEmpty then none else some (String.intercalate ", " values),
    result := pattern.evaluate now values, weight := Scalar.one }

def methodRows (pattern : RequestPattern) (request : Http.Request) : List (FieldMatch R) :=
  pattern.method.toList.map fun method =>
    equalityRow "method" method request.method
      (Text.equalsIgnoringAsciiCase method request.method) methodWeight

def urlRows (pattern : RequestPattern) (request : Http.Request) : List (FieldMatch R) :=
  if pattern.url.isAny then []
  else
    [{ field := "url", operator := pattern.url.operator, expected := pattern.url.expected,
       actual := some (pattern.url.actual request), result := pattern.url.evaluate request,
       weight := urlWeight }]

def schemeRows (pattern : RequestPattern) (request : Http.Request) : List (FieldMatch R) :=
  pattern.scheme.toList.map fun scheme =>
    equalityRow "scheme" scheme request.scheme
      (Text.equalsIgnoringAsciiCase scheme request.scheme) Scalar.one

def hostRows (now : Calendar.Instant) (pattern : RequestPattern) (request : Http.Request) :
    List (FieldMatch R) :=
  pattern.host.toList.map fun host => singleRow now "host" host request.hostName

def portRows (pattern : RequestPattern) (request : Http.Request) : List (FieldMatch R) :=
  pattern.port.toList.map fun port =>
    equalityRow "port" (toString port) (toString request.portNumber)
      (port == request.portNumber) Scalar.one

def severalRows (now : Calendar.Instant) (group : String)
    (patterns : List (String × MultiValuePattern)) (values : String → List String) :
    List (FieldMatch R) :=
  patterns.map fun entry => severalRow now group entry.1 entry.2 (values entry.1)

def namedRows (now : Calendar.Instant) (group : String) (patterns : List (String × Pattern))
    (value : String → Option String) : List (FieldMatch R) :=
  patterns.map fun entry =>
    singleRow now (group ++ "." ++ entry.1) entry.2 (value entry.1)

def bodyRows (now : Calendar.Instant) (pattern : RequestPattern) (request : Http.Request) :
    List (FieldMatch R) :=
  pattern.bodies.map fun body =>
    { field := "body", operator := body.operator, expected := body.expected,
      actual := some request.bodyText, result := body.evaluateBytes now (some request.body),
      weight := Scalar.one }

def describeParts (parts : List Http.Part) : String :=
  toString parts.length ++ " part(s): " ++
    String.intercalate ", " (parts.filterMap Http.Part.name)

def multipartRows (now : Calendar.Instant) (pattern : RequestPattern)
    (request : Http.Request) : List (FieldMatch R) :=
  pattern.multiparts.map fun multipart =>
    { field := "multipart", operator := "multipart", expected := multipart.describe,
      actual := some (describeParts request.partList),
      result := multipart.evaluate now request.partList, weight := Scalar.one }

/-- Evaluate every declared field on a request.  A value that is missing or cannot be read does
not match. -/
def evaluate (now : Calendar.Instant) (pattern : RequestPattern) (request : Http.Request) :
    MatchReport R :=
  ⟨methodRows pattern request ++ urlRows pattern request ++ schemeRows pattern request ++
    hostRows now pattern request ++ portRows pattern request ++
    severalRows now "headers" pattern.headers request.headerValues ++
    severalRows now "queryParameters" pattern.queryParameters request.queryValues ++
    severalRows now "formParameters" pattern.formParameters request.formValues ++
    namedRows now "cookies" pattern.cookies request.cookieValue ++
    namedRows now "pathParameters" pattern.pathParameters
      (fun name => Assoc.find? name (pattern.url.pathParameters request)) ++
    bodyRows now pattern request ++ multipartRows now pattern request⟩

end RequestPattern

/-- The declaration of a request pattern.  The URL is declared by name and expected text. -/
structure RequestDefinition where
  method : Option String := none
  urls : List (String × String) := []
  host : Option PatternDefinition := none
  port : Option Nat := none
  scheme : Option String := none
  headers : List (String × MultiValueDefinition) := []
  queryParameters : List (String × MultiValueDefinition) := []
  formParameters : List (String × MultiValueDefinition) := []
  cookies : List (String × PatternDefinition) := []
  pathParameters : List (String × PatternDefinition) := []
  bodies : List PatternDefinition := []
  multiparts : List MultipartDefinition := []

namespace RequestDefinition

open PatternDefinition MultipartDefinition

def fieldNames : List String :=
  ["method", "url", "urlPath", "urlPattern", "urlPathPattern", "urlPathTemplate", "host",
    "port", "scheme", "headers", "queryParameters", "formParameters", "cookies",
    "pathParameters", "bodyPatterns", "multipartPatterns"]

/-- The ways to declare a URL, in the order in which conflicts name them. -/
def urlNames : List String :=
  ["url", "urlPath", "urlPathTemplate", "urlPathPattern", "urlPattern"]

def ofJson (document : Json) : Option RequestDefinition := do
  let record ← Record.ofJson fieldNames document
  let several (name : String) :=
    record.withDefault name [] (Json.tableOf? MultiValueDefinition.ofJson)
  let single (name : String) :=
    record.withDefault name [] (Json.tableOf? PatternDefinition.ofJson)
  let urls ← urlNames.mapM fun name => do
    let expected ← record.optional name Json.asString?
    return expected.toList.map fun expected => (name, expected)
  return {
    method := ← record.optional "method" Json.asString?
    urls := urls.flatten
    host := ← record.optional "host" PatternDefinition.ofJson
    port := ← record.optional "port" Json.asPort?
    scheme := ← record.optional "scheme" Json.asString?
    headers := ← several "headers"
    queryParameters := ← several "queryParameters"
    formParameters := ← several "formParameters"
    cookies := ← single "cookies"
    pathParameters := ← single "pathParameters"
    bodies := ← record.withDefault "bodyPatterns" [] (Json.listOf? PatternDefinition.ofJson)
    multiparts :=
      ← record.withDefault "multipartPatterns" [] (Json.listOf? MultipartDefinition.ofJson) }

def toJson (definition : RequestDefinition) : Json :=
  Json.record <|
    [("method", definition.method.map .string),
      ("host", definition.host.map PatternDefinition.toJson),
      ("port", definition.port.map .ofNat),
      ("scheme", definition.scheme.map .string),
      ("headers", Json.tableOption MultiValueDefinition.toJson definition.headers),
      ("queryParameters",
        Json.tableOption MultiValueDefinition.toJson definition.queryParameters),
      ("formParameters",
        Json.tableOption MultiValueDefinition.toJson definition.formParameters),
      ("cookies", Json.tableOption PatternDefinition.toJson definition.cookies),
      ("pathParameters", Json.tableOption PatternDefinition.toJson definition.pathParameters),
      ("bodyPatterns", Json.listOption PatternDefinition.toJson definition.bodies),
      ("multipartPatterns",
        Json.listOption MultipartDefinition.toJson definition.multiparts)] ++
    definition.urls.map fun url => (url.1, some (.string url.2))

def checkParameters (url : UrlPattern) (names : List String) : Except PatternError Unit :=
  match names with
  | [] => .ok ()
  | names =>
      match url with
      | .template template =>
          match names.find? fun name => !template.parameterNames.contains name with
          | none => .ok ()
          | some unknown =>
              within "pathParameters"
                (within unknown (fail (.unknownParameter unknown template.source)))
      | _ => within "pathParameters" (fail .parametersWithoutTemplate)

def compileHost (host : Option PatternDefinition) : Except PatternError (Option Pattern) :=
  match host with
  | none => .ok none
  | some host => do return some (← within "host" host.compile)

def compileMultiparts (index : Nat) :
    List MultipartDefinition → Except PatternError (List MultipartPattern)
  | [] => .ok []
  | definition :: definitions => do
      let first ← within (place "multipartPatterns" index) definition.compile
      return first :: (← compileMultiparts (index + 1) definitions)

def compile (definition : RequestDefinition) : Except PatternError RequestPattern := do
  let url ← UrlPattern.ofDeclared definition.urls
  let pathParameters ←
    compileTable "pathParameters" PatternDefinition.compile definition.pathParameters
  checkParameters url (Assoc.keys pathParameters)
  let host ← compileHost definition.host
  let bodies ← compileEach "bodyPatterns" 0 definition.bodies
  let multiparts ← compileMultiparts 0 definition.multiparts
  let several (field : String) := compileTable field MultiValueDefinition.compile
  let headers ← several "headers" definition.headers
  let queryParameters ← several "queryParameters" definition.queryParameters
  let formParameters ← several "formParameters" definition.formParameters
  let cookies ← compileTable "cookies" PatternDefinition.compile definition.cookies
  let pattern : RequestPattern :=
    { url, host, port := definition.port, headers, queryParameters, formParameters, cookies,
      pathParameters, bodies, multiparts }
  let pattern :=
    match definition.method with
    | none => pattern
    | some method => pattern.withMethod method
  return match definition.scheme with
    | none => pattern
    | some scheme => pattern.withScheme scheme

end RequestDefinition

namespace RequestPattern

def definition (pattern : RequestPattern) : RequestDefinition :=
  { method := some (pattern.method.getD "ANY")
    urls := pattern.url.declared
    host := pattern.host.map Pattern.definition
    port := pattern.port
    scheme := pattern.scheme
    headers := Assoc.mapValues MultiValuePattern.definition pattern.headers
    queryParameters := Assoc.mapValues MultiValuePattern.definition pattern.queryParameters
    formParameters := Assoc.mapValues MultiValuePattern.definition pattern.formParameters
    cookies := Assoc.mapValues Pattern.definition pattern.cookies
    pathParameters := Assoc.mapValues Pattern.definition pattern.pathParameters
    bodies := pattern.bodies.map Pattern.definition
    multiparts := pattern.multiparts.map MultipartPattern.definition }

def toJson (pattern : RequestPattern) : Json := pattern.definition.toJson

instance : BEq RequestPattern := ⟨fun left right => left.toJson == right.toJson⟩

end RequestPattern

end ServiceStub
