import ServiceStub.Report.Summary

namespace ServiceStub

open Json (entry ofEntries)

def Text.comparison (caseSensitive : Bool) (expected actual : String) : Json :=
  ofEntries
    [entry "equals" (equals caseSensitive expected actual),
      entry "contains" (containsText caseSensitive expected actual),
      entry "distance" (distance caseSensitive expected actual : Float),
      entry "substringDistance" (substringDistance caseSensitive expected actual : Float),
      entry "substringSimilarity" (substringSimilarity caseSensitive expected actual : Float),
      entry "longestCommonSubstring" (longestCommonSubstring caseSensitive expected actual)]

/-- The moment that a date is compared with, unless it depends on the time of evaluation. -/
def Pattern.instantEntry : Pattern → List (String × Json)
  | .dateTime date =>
      match date.expected with
      | .now _ => []
      | .literal moment => [entry "instant" (date.expectedInstant moment)]
  | _ => []

def Pattern.overview (pattern : Pattern) : List (String × Json) :=
  [entry "definition" pattern.toJson, entry "operator" pattern.operator,
    entry "expected" pattern.expected, entry "display" pattern.display,
    entry "predicates" pattern.predicateCount, entry "absent" pattern.isAbsent] ++
  pattern.instantEntry

def MultiValuePattern.overview (pattern : MultiValuePattern) : List (String × Json) :=
  [entry "definition" pattern.toJson, entry "operator" pattern.operator,
    entry "expected" pattern.expected, entry "display" pattern.display,
    entry "predicates" pattern.predicateCount, entry "absent" pattern.isAbsent]

def UrlPattern.overview (pattern : UrlPattern) : List (String × Json) :=
  [entry "operator" pattern.operator, entry "expected" pattern.expected,
    entry "display" pattern.display, entry "specificity" pattern.specificity,
    entry "any" pattern.isAny]

def RequestPattern.overview (pattern : RequestPattern) : List (String × Json) :=
  [entry "definition" pattern.toJson, entry "method" pattern.method,
    entry "predicates" pattern.predicateCount]

def Http.Request.overview (request : Http.Request) : List (String × Json) :=
  [entry "method" request.method, entry "url" request.url, entry "path" request.path,
    entry "query" request.query, entry "scheme" request.scheme, entry "host" request.hostName,
    entry "port" request.portNumber, entry "headers" request.headers,
    entry "contentType" request.contentType, entry "queryParams" request.queryParameters,
    entry "formParams" request.formParameters, entry "cookies" request.cookies,
    entry "body" request.bodyText, entry "parts" request.partList,
    entry "summary" request.summary]

def Stub.overview {S Input : Type} [Stub S Input] (stub : S) : List (String × Json) :=
  let specificity := Stub.specificity stub
  [entry "priority" (Stub.priority stub),
    entry "specificity" (specificity.urlRank, specificity.predicates),
    entry "scenario" (Stub.scenario stub)]

def HttpStub.overview (stub : HttpStub) : List (String × Json) :=
  [entry "definition" stub.toJson, entry "id" stub.id, entry "name" stub.name,
    entry "persistent" stub.persistent] ++ Stub.overview stub

def MessageStub.overview (stub : MessageStub) : List (String × Json) :=
  entry "definition" stub.toJson :: Stub.overview stub

end ServiceStub
