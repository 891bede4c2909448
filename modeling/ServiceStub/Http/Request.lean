import ServiceStub.Http.Cookie
import ServiceStub.Http.Form
import ServiceStub.Http.Multipart
import ServiceStub.Http.Uri
import ServiceStub.Json.Record
import ServiceStub.Text.Base64
import ServiceStub.Text.Case

namespace ServiceStub.Http

/-- A request as patterns see it.  Parts that are given stand in place of those the body
holds, which are kept once they were decoded. -/
structure Request where
  scheme : String := "http"
  host : Option String := none
  port : Option Nat := none
  method : String
  url : String
  headers : Headers := []
  body : Bytes := []
  parts : Option (List Part) := none
  decoded : Option (List Part) := none
  deriving Repr, DecidableEq

namespace Request

def ofMethod (method url : String) : Request := { method := Text.upper method, url }

def withScheme (request : Request) (scheme : String) : Request := { request with scheme }

def withHost (request : Request) (host : String) : Request := { request with host := some host }

def withPort (request : Request) (port : Nat) : Request := { request with port := some port }

def withHeader (request : Request) (name value : String) : Request :=
  { request with headers := request.headers ++ [(name, value)] }

/-- A new body has not been decoded yet. -/
def withBody (request : Request) (body : Bytes) : Request :=
  { request with body, decoded := none }

def withParts (request : Request) (parts : List Part) : Request :=
  { request with parts := some parts }

def path (request : Request) : String :=
  String.ofList (request.url.toList.takeWhile fun c => c != '?' && c != '#')

/-- What stands between the first question mark and the fragment after it. -/
def query (request : Request) : Option String :=
  (Text.splitOnce '?' request.url.toList).map fun (_, rest) =>
    String.ofList (rest.takeWhile (· != '#'))

def headerValues (request : Request) (name : String) : List String :=
  Headers.values request.headers name

def authority (request : Request) : Option Authority :=
  (request.headerValues "host").head?.bind fun value => Authority.ofString? (Text.trim value)

def hostName (request : Request) : Option String :=
  match request.host with
  | some host => some host
  | none => request.authority.map Authority.host

/-- The port the request was sent to: given, as the host header says, or that of the scheme. -/
def portNumber (request : Request) : Nat :=
  match request.port with
  | some port => port
  | none =>
      match request.authority.bind Authority.port with
      | some port => port
      | none => if Text.equalsIgnoringAsciiCase request.scheme "https" then 443 else 80

def contentType (request : Request) : Option String :=
  (request.headerValues "content-type").head?

def valuesNamed (pairs : List (String × String)) (name : String) : List String :=
  (pairs.filter fun pair => Text.equalsIgnoringAsciiCase pair.1 name).map Prod.snd

def queryParameters (request : Request) : List (String × String) :=
  match request.query with
  | none => []
  | some query => Form.parse (Text.toBytes query)

def queryValues (request : Request) (name : String) : List String :=
  valuesNamed request.queryParameters name

def isForm (request : Request) : Bool :=
  match request.contentType with
  | none => false
  | some contentType =>
      "application/x-www-form-urlencoded".toList.isPrefixOf
        (contentType.toList.map Text.asciiLower)

def formParameters (request : Request) : List (String × String) :=
  if request.isForm then Form.parse request.body else []

def formValues (request : Request) (name : String) : List String :=
  valuesNamed request.formParameters name

def cookies (request : Request) : List (String × String) :=
  Cookie.parse (request.headerValues "cookie")

def cookieValue (request : Request) (name : String) : Option String :=
  request.cookies.lookup name

def bodyText (request : Request) : String := Text.ofBytesLossy request.body

def bodyParts (request : Request) : List Part :=
  match request.contentType.bind Multipart.boundary? with
  | none => []
  | some boundary => (Multipart.decode boundary request.body).toOption.getD []

/-- The parts given, or those of the body as they were decoded before. -/
def partList (request : Request) : List Part :=
  match request.parts with
  | some parts => parts
  | none => request.decoded.getD request.bodyParts

/-- What a request is once it was asked for its parts. -/
def asked (request : Request) : Request :=
  { request with
    decoded := match request.parts with
      | some _ => request.decoded
      | none => some (request.decoded.getD request.bodyParts) }

def summary (request : Request) : String := request.method ++ " " ++ request.url

def headersJson (headers : Headers) : Json :=
  .array (headers.map fun header => .array [.string header.1, .string header.2])

def bytesJson (bytes : Bytes) : Json := .array (bytes.map fun byte => .ofNat byte.toNat)

def partJson (part : Part) : Json :=
  Json.record
    [("name", some (Json.ofOption .string part.name)),
      ("headers", some (headersJson part.headers)),
      ("body", some (bytesJson part.body))]

def toJson (request : Request) : Json :=
  Json.record
    [("scheme", some (.string request.scheme)),
      ("host", request.host.map .string),
      ("port", request.port.map .ofNat),
      ("method", some (.string request.method)),
      ("url", some (.string request.url)),
      ("headers", some (headersJson request.headers)),
      ("body", some (bytesJson request.body)),
      ("parts", request.parts.map fun parts => .array (parts.map partJson))]

def readHeaders : Json → Option Headers := Json.listOf? (Json.pairOf? Json.asString? Json.asString?)

def readBytes : Json → Option Bytes
  | .string text => some (Text.toBytes text)
  | document => Json.listOf? (fun item => (item.asNatUpTo? 255).map UInt8.ofNat) document

/-- A part; as a list it starts with its name. -/
def readPart (document : Json) : Option Part := do
  guard (document matches .array (_ :: _) | .object _)
  let record ← Record.ofJson ["name", "headers", "body"] document
  return {
    name := ← record.optional "name" Json.asString?
    headers := ← record.withDefault "headers" [] readHeaders
    body := ← record.withDefault "body" [] readBytes }

def ofJson (document : Json) : Option Request := do
  let record ← Record.ofJson
    ["scheme", "host", "port", "method", "url", "headers", "body", "parts"] document
  return {
    scheme := ← record.required "scheme" Json.asString?
    host := ← record.optional "host" Json.asString?
    port := ← record.optional "port" Json.asPort?
    method := ← record.required "method" Json.asString?
    url := ← record.required "url" Json.asString?
    headers := ← record.withDefault "headers" [] readHeaders
    body := ← record.withDefault "body" [] readBytes
    parts := ← record.optional "parts" (Json.listOf? readPart) }

end Request

/-- A request as it arrives: its names and values are well-formed, and its target is read. -/
structure Incoming where
  method : String
  uri : Uri
  headers : Headers
  body : Bytes

namespace Incoming

def ofParts? (method uri : String) (headers : Headers) (body : Bytes) : Option Incoming := do
  guard (isToken method)
  let uri ← Uri.ofString? uri
  guard (headers.all fun header => isToken header.1 && isHeaderValue header.2)
  return { method, uri, headers := headers.map fun header => (lowerName header.1, header.2), body }

/-- The headers with the values of one name next to each other, in the order in which the
names first occur. -/
def groupedHeaders (headers : Headers) : Headers :=
  (headers.map Prod.fst).eraseDups.flatMap fun name =>
    headers.filter fun header => header.1 == name

inductive Fault where
  | headerNotText
  deriving Repr, DecidableEq

def Fault.message : Fault → String
  | .headerNotText =>
      "cannot convert request to internal structure: failed to convert header to a str"

def toRequest (incoming : Incoming) : Except Fault Request :=
  if incoming.headers.all fun header => isVisibleAscii header.2 then
    let request := Request.ofMethod incoming.method (incoming.uri.pathAndQuery.getD "/")
      |>.withScheme (incoming.uri.scheme.getD "http")
      |>.withBody incoming.body
    .ok { request with
      host := incoming.uri.authority.map Authority.host
      port := incoming.uri.authority.bind Authority.port
      headers := groupedHeaders incoming.headers }
  else .error .headerNotText

end Incoming

end ServiceStub.Http
