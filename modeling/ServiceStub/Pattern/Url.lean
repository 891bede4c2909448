import ServiceStub.Http.Request
import ServiceStub.MatchResult
import ServiceStub.Pattern.WholeRegex

namespace ServiceStub

inductive TemplateSegment where
  | literal (text : List Char)
  | parameter (name : List Char)
  deriving Repr, DecidableEq

/-- A path with named parameters, each of which spans a whole segment. -/
structure PathTemplate where
  source : String
  segments : List TemplateSegment
  deriving Repr, DecidableEq

namespace PathTemplate

def isBrace (c : Char) : Bool := c == '\x7b' || c == '\x7d'

def parameterName? (segment : List Char) : Option (List Char) := do
  let name ← Text.stripEnd? ['\x7d'] (← Text.stripStart? ['\x7b'] segment)
  guard (!name.isEmpty && name.all fun c => !isBrace c && c != ':' && c != '*')
  return name

def readSegments (known : List TemplateSegment) :
    List (List Char) → Except TemplateFault (List TemplateSegment)
  | [] => .ok []
  | segment :: rest =>
      if segment.any isBrace then
        match parameterName? segment with
        | none => .error .parameterNotWholeSegment
        | some name =>
            if known.contains (.parameter name) then .error .parameterRepeated
            else do
              let others ← readSegments (.parameter name :: known) rest
              return .parameter name :: others
      else do
        let others ← readSegments known rest
        return .literal segment :: others

def ofString (template : String) : Except PatternError PathTemplate :=
  let segments :=
    match template.toList with
    | '/' :: path => readSegments [] (Text.splitAt (· == '/') path)
    | _ => .error .noLeadingSlash
  match segments with
  | .ok segments => .ok ⟨template, segments⟩
  | .error fault => .error (.ofFault (.badTemplate template fault))

def parameterNames (template : PathTemplate) : List String :=
  template.segments.filterMap fun
    | .parameter name => some (String.ofList name)
    | .literal _ => none

def bind : List TemplateSegment → List (List Char) → Option (List (String × String))
  | [], [] => some []
  | .literal text :: segments, piece :: pieces =>
      if text = piece then bind segments pieces else none
  | .parameter name :: segments, piece :: pieces =>
      if piece.isEmpty then none
      else
        (bind segments pieces).map fun parameters =>
          Assoc.insert (String.ofList name) (String.ofList piece) parameters
  | _, _ => none

def parameters (template : PathTemplate) (path : String) : Option (List (String × String)) :=
  match path.toList with
  | '/' :: rest => bind template.segments (Text.splitAt (· == '/') rest)
  | _ => none

variable {R : Type} [Scalar R]

def segmentDistance (segment : TemplateSegment) (piece : List Char) : R :=
  match segment with
  | .parameter _ => if piece.isEmpty then Scalar.one else Scalar.zero
  | .literal text => Text.listDistance text piece

/-- Segments without a counterpart count as wholly different. -/
def distance (template : PathTemplate) (path : String) : R :=
  let pieces := Text.splitAt (· == '/') (Text.trimStart (· == '/') path.toList)
  let longest := max template.segments.length pieces.length
  let shortest := min template.segments.length pieces.length
  let mismatched := (template.segments.zip pieces).foldl
    (fun (sum : R) (segment, piece) => sum + segmentDistance segment piece)
    (Scalar.ofNat (longest - shortest))
  Scalar.clamp (mismatched / Scalar.ofNat longest)

def evaluate (template : PathTemplate) (path : String) : MatchResult R :=
  if (template.parameters path).isSome then .exact else .mismatch (template.distance path)

end PathTemplate

inductive UrlPattern where
  | any
  | url (expected : String)
  | path (expected : String)
  | template (expected : PathTemplate)
  | pathRegex (expected : WholeRegex)
  | urlRegex (expected : WholeRegex)

namespace UrlPattern

/-- How constrained the URL is; an exact one ranks highest. -/
def specificity : UrlPattern → Nat
  | .url _ => 5
  | .path _ => 4
  | .template _ => 3
  | .pathRegex _ => 2
  | .urlRegex _ => 1
  | .any => 0

def isAny : UrlPattern → Bool
  | .any => true
  | _ => false

def operator : UrlPattern → String
  | .any => "anyUrl"
  | .url _ => "url"
  | .path _ => "urlPath"
  | .template _ => "urlPathTemplate"
  | .pathRegex _ => "urlPathPattern"
  | .urlRegex _ => "urlPattern"

def expected : UrlPattern → String
  | .any => "(any)"
  | .url expected => expected
  | .path expected => expected
  | .template expected => expected.source
  | .pathRegex expected => expected.source
  | .urlRegex expected => expected.source

def display (pattern : UrlPattern) : String := pattern.operator ++ " " ++ pattern.expected

/-- The part of a request that is looked at: its whole URL, or the path only. -/
def actual (pattern : UrlPattern) (request : Http.Request) : String :=
  match pattern with
  | .path _ => request.path
  | .template _ => request.path
  | .pathRegex _ => request.path
  | _ => request.url

variable {R : Type} [Scalar R]

def evaluateText (expected actual : String) : MatchResult R :=
  if expected == actual then .exact else .mismatch (Text.distance true expected actual)

def evaluateRegex (expected : WholeRegex) (actual : String) : MatchResult R :=
  if expected.isMatch actual then .exact else .mismatch (expected.distance actual)

def evaluate (pattern : UrlPattern) (request : Http.Request) : MatchResult R :=
  let actual := pattern.actual request
  match pattern with
  | .any => .exact
  | .url expected => evaluateText expected actual
  | .path expected => evaluateText expected actual
  | .template expected => expected.evaluate actual
  | .pathRegex expected => evaluateRegex expected actual
  | .urlRegex expected => evaluateRegex expected actual

def pathParameters (pattern : UrlPattern) (request : Http.Request) : List (String × String) :=
  match pattern with
  | .template expected => (expected.parameters request.path).getD []
  | _ => []

def declared : UrlPattern → List (String × String)
  | .any => []
  | pattern => [(pattern.operator, pattern.expected)]

def ofDeclared : List (String × String) → Except PatternError UrlPattern
  | [] => .ok .any
  | [(name, expected)] =>
      match name with
      | "url" => .ok (.url expected)
      | "urlPath" => .ok (.path expected)
      | "urlPathTemplate" => do return .template (← PathTemplate.ofString expected)
      | "urlPathPattern" => do return .pathRegex (← WholeRegex.ofString expected)
      | _ => do return .urlRegex (← WholeRegex.ofString expected)
  | several => .error (.ofFault (.severalUrls (several.map Prod.fst)))

end UrlPattern

end ServiceStub
