import ServiceStub.Http.Request
import ServiceStub.Json.Printer

namespace ServiceStub.Http

structure Response where
  status : Nat
  headers : Headers
  body : Bytes
  deriving Repr, DecidableEq

inductive ResponseFault where
  | bodyNotBase64
  | badStatus
  | badHeader
  deriving Repr, DecidableEq

namespace ResponseFault

def message : ResponseFault → String
  | .bodyNotBase64 => "cannot decode body: not in canonical form"
  | .badStatus => "cannot build response: invalid status code"
  | .badHeader => "cannot build response: invalid HTTP header"

end ResponseFault

structure ResponseDefinition where
  status : Nat := 200
  statusMessage : Option String := none
  headers : Headers := []
  body : Option String := none
  jsonBody : Option Json := none
  base64Body : Option String := none
  fixedDelay : Option Nat := none

namespace ResponseDefinition

/-- The bytes of the body: a text before a document, a document before encoded bytes. -/
def bodyBytes (definition : ResponseDefinition) : Except ResponseFault Bytes :=
  match definition.body, definition.jsonBody, definition.base64Body with
  | some text, _, _ => .ok (Text.toBytes text)
  | none, some document, _ => .ok (Text.toBytes document.compact)
  | none, none, some encoded =>
      match Text.Base64.decode? encoded with
      | some bytes => .ok bytes
      | none => .error .bodyNotBase64
  | none, none, none => .ok []

def contentTypeHeader (definition : ResponseDefinition) : Headers :=
  if definition.jsonBody.isSome && definition.body.isNone &&
      (Headers.values definition.headers "content-type").isEmpty then
    [("content-type", "application/json")]
  else []

/-- The response; a document as body brings its content type unless one is declared. -/
def toResponse (definition : ResponseDefinition) : Except ResponseFault Response := do
  let body ← definition.bodyBytes
  if definition.status < 100 || 999 < definition.status then throw .badStatus
  if !definition.headers.all fun header => isToken header.1 && isHeaderValue header.2 then
    throw .badHeader
  let declared := definition.headers.map fun header => (lowerName header.1, header.2)
  return {
    status := definition.status
    headers := declared ++ definition.contentTypeHeader
    body }

def toJson (definition : ResponseDefinition) : Json :=
  Json.record
    [("status", some (.ofNat definition.status)),
      ("statusMessage", definition.statusMessage.map .string),
      ("headers",
        if definition.headers.isEmpty then none
        else some (Request.headersJson definition.headers)),
      ("body", definition.body.map .string),
      ("jsonBody", definition.jsonBody),
      ("base64Body", definition.base64Body.map .string),
      ("fixedDelayMilliseconds", definition.fixedDelay.map .ofNat)]

def fieldNames : List String :=
  ["status", "statusMessage", "headers", "body", "jsonBody", "base64Body",
    "fixedDelayMilliseconds"]

def ofJson (document : Json) : Option ResponseDefinition := do
  let record ← Record.ofJson fieldNames document
  return {
    status := ← record.withDefault "status" 200 Json.asPort?
    statusMessage := ← record.optional "statusMessage" Json.asString?
    headers := ← record.withDefault "headers" [] Request.readHeaders
    body := ← record.optional "body" Json.asString?
    jsonBody := ← record.optional "jsonBody" fun body => some body.canonical
    base64Body := ← record.optional "base64Body" Json.asString?
    fixedDelay := ← record.optional "fixedDelayMilliseconds" Json.asNat? }

/-- Definitions are the same if they are written the same. -/
instance : BEq ResponseDefinition := ⟨fun left right => left.toJson == right.toJson⟩

end ResponseDefinition

end ServiceStub.Http
