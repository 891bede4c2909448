import ServiceStub.Pattern.Request
import ServiceStub.Proofs.Pattern.MultiValue

/-!
What it means that a request satisfies a pattern.  Every declared predicate has a row of positive
weight, which is exact just if the predicate holds, and so is the mean of all rows.
-/

namespace ServiceStub

open MatchResult (Decides)

def MatchReport.mean (report : MatchReport Rat) : Rat :=
  (report.rows.map fun row => row.result.distance * row.weight).sum /
    (report.rows.map FieldMatch.weight).sum

/-- Rows of positive weight that are all exact just if a predicate holds. -/
structure FieldMatch.Decide (rows : List (FieldMatch Rat)) (holds : Prop) : Prop where
  weight_pos : ∀ row ∈ rows, 0 < row.weight
  inRange : ∀ row ∈ rows, row.result.InRange
  isExact_iff : (∀ row ∈ rows, row.result.isExact) ↔ holds

namespace FieldMatch.Decide

variable {rows others : List (FieldMatch Rat)} {holds other : Prop} {α : Type} {items : List α}

theorem congr (decide : Decide rows holds) (same : holds ↔ other) : Decide rows other :=
  ⟨decide.weight_pos, decide.inRange, decide.isExact_iff.trans same⟩

theorem nil : Decide [] True := ⟨by simp, by simp, by simp⟩

theorem append (decide : Decide rows holds) (more : Decide others other) :
    Decide (rows ++ others) (holds ∧ other) where
  weight_pos := List.forall_mem_append.mpr ⟨decide.weight_pos, more.weight_pos⟩
  inRange := List.forall_mem_append.mpr ⟨decide.inRange, more.inRange⟩
  isExact_iff := by rw [List.forall_mem_append, decide.isExact_iff, more.isExact_iff]

theorem map {rowOf : α → FieldMatch Rat} {property : α → Prop}
    (weight_pos : ∀ item ∈ items, 0 < (rowOf item).weight)
    (decides : ∀ item ∈ items, (rowOf item).result.Decides (property item)) :
    Decide (items.map rowOf) (∀ item ∈ items, property item) where
  weight_pos := List.forall_mem_map.mpr weight_pos
  inRange := List.forall_mem_map.mpr fun item member => (decides item member).toInRange
  isExact_iff := by
    rw [List.forall_mem_map]
    exact forall₂_congr fun item member => (decides item member).isExact_iff

theorem option {declared : Option α} {rowOf : α → FieldMatch Rat} {property : α → Prop}
    (weight_pos : ∀ item, 0 < (rowOf item).weight)
    (decides : ∀ item, (rowOf item).result.Decides (property item)) :
    Decide (declared.toList.map rowOf) (∀ item ∈ declared, property item) := by
  refine (map (fun item _ => weight_pos item) fun item _ => decides item).congr ?_
  simp only [Option.mem_toList, Option.mem_def]

theorem report (decide : Decide rows holds) : (MatchReport.mk rows).result.Decides holds := by
  refine ⟨MatchResult.inRange_weightedMean _, ?_⟩
  rw [MatchReport.result, MatchResult.isExact_weightedMean_iff
    (List.forall_mem_map.mpr decide.weight_pos) (List.forall_mem_map.mpr decide.inRange),
    List.forall_mem_map]
  exact decide.isExact_iff

theorem distance_eq_mean (decide : Decide rows holds) :
    (MatchReport.mk rows).distance = (MatchReport.mk rows).mean := by
  rw [MatchReport.distance, MatchReport.result, MatchResult.distance_weightedMean
    (List.forall_mem_map.mpr decide.weight_pos) (List.forall_mem_map.mpr decide.inRange),
    List.map_map, List.map_map, MatchReport.mean]
  rfl

end FieldMatch.Decide

namespace UrlPattern

def Selects (pattern : UrlPattern) (request : Http.Request) : Prop :=
  match pattern with
  | .any => True
  | .url expected => expected = request.url
  | .path expected => expected = request.path
  | .template expected => ∃ parameters, expected.parameters request.path = some parameters
  | .pathRegex expected => expected.isMatch request.path
  | .urlRegex expected => expected.isMatch request.url

theorem decides_evaluate (pattern : UrlPattern) (request : Http.Request) :
    (pattern.evaluate request : MatchResult Rat).Decides (pattern.Selects request) := by
  cases pattern with
  | any => exact .exact
  | url expected => exact (Decides.ite_mismatch _).congr beq_iff_eq
  | path expected => exact (Decides.ite_mismatch _).congr beq_iff_eq
  | template expected => exact (Decides.ite_mismatch _).congr Option.isSome_iff_exists
  | pathRegex expected => exact .ite_mismatch _
  | urlRegex expected => exact .ite_mismatch _

end UrlPattern

namespace MultipartPattern

variable {now : Calendar.Instant}

structure SatisfiedBy (now : Calendar.Instant) (pattern : MultipartPattern) (part : Http.Part) :
    Prop where
  name : ∀ name ∈ pattern.name, part.name = some name
  headers : ∀ header ∈ pattern.headers,
    header.2.Satisfies now (Http.Headers.values part.headers header.1)
  bodies : ∀ body ∈ pattern.bodies, body.SatisfiesBytes now (some part.body)

/-- There are parts, and one of them or all of them satisfy the pattern. -/
def Satisfies (now : Calendar.Instant) (pattern : MultipartPattern) (parts : List Http.Part) :
    Prop :=
  parts ≠ [] ∧
    match pattern.quantifier with
    | .any => ∃ part ∈ parts, pattern.SatisfiedBy now part
    | .all => ∀ part ∈ parts, pattern.SatisfiedBy now part

private theorem decides_evaluateName (expected : String) (actual : Option String) :
    (evaluateName expected actual : MatchResult Rat).Decides (actual = some expected) := by
  cases actual with
  | none => exact Decides.noMatch.congr (by simp)
  | some actual => exact (Decides.ite_mismatch _).congr (by simp)

private theorem decides_evaluatePart (now : Calendar.Instant) (pattern : MultipartPattern)
    (part : Http.Part) :
    (pattern.evaluatePart now part : MatchResult Rat).Decides (pattern.SatisfiedBy now part) := by
  refine ⟨MatchResult.inRange_mean _, ?_⟩
  have name (expected : String) := decides_evaluateName expected part.name
  have header (entry : String × MultiValuePattern) :=
    entry.2.decides_evaluate now (Http.Headers.values part.headers entry.1)
  have body (inner : Pattern) := inner.decides_evaluateBytes now (some part.body)
  rw [evaluatePart, MatchResult.isExact_mean_iff]
  · simp only [List.forall_mem_append, List.forall_mem_map, Option.mem_toList,
      (name _).isExact_iff, (header _).isExact_iff, (body _).isExact_iff]
    exact ⟨fun ⟨⟨name, headers⟩, bodies⟩ => ⟨name, headers, bodies⟩,
      fun satisfied => ⟨⟨satisfied.name, satisfied.headers⟩, satisfied.bodies⟩⟩
  · simp only [List.forall_mem_append, List.forall_mem_map]
    exact ⟨⟨fun expected _ => (name expected).toInRange, fun entry _ => (header entry).toInRange⟩,
      fun inner _ => (body inner).toInRange⟩

theorem decides_evaluate (now : Calendar.Instant) (pattern : MultipartPattern)
    (parts : List Http.Part) :
    (pattern.evaluate now parts : MatchResult Rat).Decides (pattern.Satisfies now parts) := by
  rw [evaluate, Satisfies]
  cases parts with
  | nil => exact Decides.noMatch.congr (by simp)
  | cons first rest =>
      cases pattern.quantifier with
      | any =>
          have one := Decides.any fun part (_ : part ∈ first :: rest) =>
            pattern.decides_evaluatePart now part
          exact one.congr (by simp)
      | all =>
          have each := Decides.all fun part (_ : part ∈ first :: rest) =>
            pattern.decides_evaluatePart now part
          exact each.congr (by simp)

end MultipartPattern

namespace RequestPattern

/-- Every declared predicate holds. -/
structure Satisfies (now : Calendar.Instant) (pattern : RequestPattern) (request : Http.Request) :
    Prop where
  method : ∀ method ∈ pattern.method, Text.equalsIgnoringAsciiCase method request.method
  url : pattern.url.Selects request
  scheme : ∀ scheme ∈ pattern.scheme, Text.equalsIgnoringAsciiCase scheme request.scheme
  host : ∀ host ∈ pattern.host, host.Satisfies now request.hostName
  port : ∀ port ∈ pattern.port, port = request.portNumber
  headers : ∀ header ∈ pattern.headers,
    header.2.Satisfies now (request.headerValues header.1)
  queryParameters : ∀ parameter ∈ pattern.queryParameters,
    parameter.2.Satisfies now (request.queryValues parameter.1)
  formParameters : ∀ parameter ∈ pattern.formParameters,
    parameter.2.Satisfies now (request.formValues parameter.1)
  cookies : ∀ cookie ∈ pattern.cookies, cookie.2.Satisfies now (request.cookieValue cookie.1)
  pathParameters : ∀ parameter ∈ pattern.pathParameters,
    parameter.2.Satisfies now (Assoc.find? parameter.1 (pattern.url.pathParameters request))
  bodies : ∀ body ∈ pattern.bodies, body.SatisfiesBytes now (some request.body)
  multiparts : ∀ multipart ∈ pattern.multiparts, multipart.Satisfies now request.partList

open FieldMatch (Decide)

private theorem decide_methodRows (pattern : RequestPattern) (request : Http.Request) :
    Decide (methodRows pattern request)
      (∀ method ∈ pattern.method, Text.equalsIgnoringAsciiCase method request.method) :=
  .option (fun _ => by norm_num [equalityRow, methodWeight]) fun _ => .of _

private theorem decide_urlRows (pattern : RequestPattern) (request : Http.Request) :
    Decide (urlRows pattern request) (pattern.url.Selects request) := by
  have decides := pattern.url.decides_evaluate request
  rw [urlRows]
  cases any : pattern.url.isAny with
  | true =>
      have unconstrained : pattern.url = .any := by
        cases url : pattern.url <;> simp [url, UrlPattern.isAny] at any ⊢
      rw [if_pos rfl, unconstrained]
      exact .nil
  | false =>
      rw [if_neg Bool.false_ne_true]
      refine ⟨?_, ?_, ?_⟩
      · norm_num [urlWeight]
      · simpa using decides.toInRange
      · simpa using decides.isExact_iff

private theorem decide_schemeRows (pattern : RequestPattern) (request : Http.Request) :
    Decide (schemeRows pattern request)
      (∀ scheme ∈ pattern.scheme, Text.equalsIgnoringAsciiCase scheme request.scheme) :=
  .option (fun _ => by norm_num [equalityRow]) fun _ => .of _

private theorem decide_hostRows (now : Calendar.Instant) (pattern : RequestPattern)
    (request : Http.Request) :
    Decide (hostRows now pattern request)
      (∀ host ∈ pattern.host, host.Satisfies now request.hostName) :=
  .option (fun _ => by norm_num [singleRow]) fun host => host.decides_evaluate now _

private theorem decide_portRows (pattern : RequestPattern) (request : Http.Request) :
    Decide (portRows pattern request) (∀ port ∈ pattern.port, port = request.portNumber) :=
  .option (fun _ => by norm_num [equalityRow]) fun _ => (Decides.of _).congr beq_iff_eq

private theorem decide_severalRows (now : Calendar.Instant) (group : String)
    (patterns : List (String × MultiValuePattern)) (values : String → List String) :
    Decide (severalRows now group patterns values)
      (∀ entry ∈ patterns, entry.2.Satisfies now (values entry.1)) :=
  .map (fun _ _ => by norm_num [severalRow]) fun entry _ => entry.2.decides_evaluate now _

private theorem decide_namedRows (now : Calendar.Instant) (group : String)
    (patterns : List (String × Pattern)) (value : String → Option String) :
    Decide (namedRows now group patterns value)
      (∀ entry ∈ patterns, entry.2.Satisfies now (value entry.1)) :=
  .map (fun _ _ => by norm_num [singleRow]) fun entry _ => entry.2.decides_evaluate now _

theorem decide_bodyRows (now : Calendar.Instant) (pattern : RequestPattern)
    (request : Http.Request) :
    Decide (bodyRows now pattern request)
      (∀ body ∈ pattern.bodies, body.SatisfiesBytes now (some request.body)) :=
  .map (fun _ _ => by norm_num) fun body _ => body.decides_evaluateBytes now _

private theorem decide_multipartRows (now : Calendar.Instant) (pattern : RequestPattern)
    (request : Http.Request) :
    Decide (multipartRows now pattern request)
      (∀ multipart ∈ pattern.multiparts, multipart.Satisfies now request.partList) :=
  .map (fun _ _ => by norm_num) fun multipart _ => multipart.decides_evaluate now _

theorem decide_rows (now : Calendar.Instant) (pattern : RequestPattern) (request : Http.Request) :
    Decide (pattern.evaluate now request).rows (pattern.Satisfies now request) := by
  have all := decide_methodRows pattern request
    |>.append (decide_urlRows pattern request)
    |>.append (decide_schemeRows pattern request)
    |>.append (decide_hostRows now pattern request)
    |>.append (decide_portRows pattern request)
    |>.append (decide_severalRows now "headers" pattern.headers request.headerValues)
    |>.append (decide_severalRows now "queryParameters" pattern.queryParameters
      request.queryValues)
    |>.append (decide_severalRows now "formParameters" pattern.formParameters request.formValues)
    |>.append (decide_namedRows now "cookies" pattern.cookies request.cookieValue)
    |>.append (decide_namedRows now "pathParameters" pattern.pathParameters fun name =>
      Assoc.find? name (pattern.url.pathParameters request))
    |>.append (decide_bodyRows now pattern request)
    |>.append (decide_multipartRows now pattern request)
  refine all.congr ?_
  constructor
  · rintro ⟨⟨⟨⟨⟨⟨⟨⟨⟨⟨⟨method, url⟩, scheme⟩, host⟩, port⟩, headers⟩, query⟩, form⟩, cookies⟩,
      parameters⟩, bodies⟩, multiparts⟩
    exact ⟨method, url, scheme, host, port, headers, query, form, cookies, parameters, bodies,
      multiparts⟩
  · rintro ⟨method, url, scheme, host, port, headers, query, form, cookies, parameters, bodies,
      multiparts⟩
    exact ⟨⟨⟨⟨⟨⟨⟨⟨⟨⟨⟨method, url⟩, scheme⟩, host⟩, port⟩, headers⟩, query⟩, form⟩, cookies⟩,
      parameters⟩, bodies⟩, multiparts⟩

theorem decides_evaluate (now : Calendar.Instant) (pattern : RequestPattern)
    (request : Http.Request) :
    (pattern.evaluate now request : MatchReport Rat).result.Decides
      (pattern.Satisfies now request) :=
  (pattern.decide_rows now request).report

end RequestPattern

end ServiceStub
