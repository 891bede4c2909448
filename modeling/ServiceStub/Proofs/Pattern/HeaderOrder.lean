import ServiceStub.Pattern.Request
import ServiceStub.Proofs.Http.Parts
import Mathlib.Data.List.Basic

/-!
Requests that show the same to all patterns.  As long as the values of each name stay in order,
neither the case of the names nor how the names are interleaved shows in the evaluation of a
request, and whether it was asked for its parts before does not show either.
-/

namespace ServiceStub

namespace Http.Headers

/-- Names change their case, and neighbours of different names change places. -/
inductive Rearranged : Headers → Headers → Prop
  | nil : Rearranged [] []
  | cons {name other value : String} {left right : Headers}
      (same : lowerName name = lowerName other) (rest : Rearranged left right) :
      Rearranged ((name, value) :: left) ((other, value) :: right)
  | swap {first second : String × String} {rest : Headers}
      (different : lowerName first.1 ≠ lowerName second.1) :
      Rearranged (first :: second :: rest) (second :: first :: rest)
  | trans {left middle right : Headers} (first : Rearranged left middle)
      (second : Rearranged middle right) : Rearranged left right

private theorem equalsIgnoringAsciiCase_iff {left right : String} :
    Text.equalsIgnoringAsciiCase left right ↔ lowerName left = lowerName right := by
  rw [Text.equalsIgnoringAsciiCase, beq_iff_eq, lowerName, lowerName, String.ofList_inj]

private theorem values_cons (header : String × String) (rest : Headers) (name : String) :
    values (header :: rest) name =
      if lowerName header.1 = lowerName name then header.2 :: values rest name
      else values rest name := by
  simp only [values, List.filter_cons, equalsIgnoringAsciiCase_iff]
  split
  · rfl
  · rfl

private theorem values_append (left right : Headers) (name : String) :
    values (left ++ right) name = values left name ++ values right name := by
  rw [values, List.filter_append, List.map_append, values, values]

private theorem values_eq_nil {headers : Headers} {name : String}
    (different : ∀ header ∈ headers, lowerName header.1 ≠ lowerName name) :
    values headers name = [] := by
  rw [values, List.map_eq_nil_iff, List.filter_eq_nil_iff]
  exact fun header member => mt equalsIgnoringAsciiCase_iff.mp (different header member)

private theorem exists_first {headers : Headers} {name value : String} {others : List String}
    (listed : values headers name = value :: others) :
    ∃ before other after, headers = before ++ (other, value) :: after ∧
      lowerName other = lowerName name ∧
      ∀ header ∈ before, lowerName header.1 ≠ lowerName name := by
  rw [values, List.map_eq_cons_iff] at listed
  obtain ⟨⟨other, found⟩, rest, filtered, rfl, -⟩ := listed
  obtain ⟨before, after, rfl, different, same, -⟩ := List.filter_eq_cons_iff.mp filtered
  exact ⟨before, other, after, rfl, equalsIgnoringAsciiCase_iff.mp same, fun header member =>
    mt equalsIgnoringAsciiCase_iff.mpr (different header member)⟩

namespace Rearranged

variable {left right : Headers}

theorem refl (headers : Headers) : Rearranged headers headers := by
  induction headers with
  | nil => exact .nil
  | cons header rest induction => exact .cons rfl induction

private theorem values_eq (rearranged : Rearranged left right) (name : String) :
    values left name = values right name := by
  induction rearranged with
  | nil => rfl
  | cons same rest induction => rw [values_cons, values_cons, same, induction]
  | swap different =>
      simp only [values_cons]
      split_ifs with first second
      · exact absurd (first.trans second.symm) different
      · rfl
      · rfl
      · rfl
  | trans _ _ first second => exact first.trans second

private theorem move_back {name value : String} (before after : Headers)
    (different : ∀ header ∈ before, lowerName header.1 ≠ lowerName name) :
    Rearranged ((name, value) :: (before ++ after)) (before ++ (name, value) :: after) := by
  induction before with
  | nil => exact refl _
  | cons header rest induction =>
      obtain ⟨first, others⟩ := List.forall_mem_cons.mp different
      exact .trans (.swap first.symm) (.cons rfl (induction others))

private theorem of_values_eq (same : ∀ name, values left name = values right name) :
    Rearranged left right := by
  induction left generalizing right with
  | nil =>
      cases right with
      | nil => exact .nil
      | cons header rest =>
          have listed := same header.1
          rw [values_cons, if_pos rfl] at listed
          cases listed
  | cons header rest induction =>
      obtain ⟨name, value⟩ := header
      have listed := same name
      rw [values_cons, if_pos rfl] at listed
      obtain ⟨before, other, after, rfl, named, different⟩ := exists_first listed.symm
      -- What follows the header on the left is what surrounds its counterpart on the right.
      have rest_values (third : String) : values rest third = values (before ++ after) third := by
        have values_third := same third
        rw [values_cons, values_append, values_cons, named] at values_third
        rw [values_append]
        split_ifs at values_third with thirdNamed
        · have none : values before third = [] := values_eq_nil (thirdNamed ▸ different)
          rw [none, List.nil_append] at values_third ⊢
          exact (List.cons.inj values_third).2
        · exact values_third
      exact .trans (.cons named.symm (induction rest_values))
        (move_back before after (named ▸ different))

/-- To rearrange headers is to keep the values of each name in order. -/
theorem iff_values_eq :
    Rearranged left right ↔ ∀ name, values left name = values right name :=
  ⟨values_eq, of_values_eq⟩

end Rearranged

end Http.Headers

namespace Http.Request

/-- Two requests show the same to all predicates over them. -/
structure SeenAlike (left right : Request) : Prop where
  method : left.method = right.method
  url : left.url = right.url
  scheme : left.scheme = right.scheme
  body : left.body = right.body
  headerValues : left.headerValues = right.headerValues
  hostName : left.hostName = right.hostName
  portNumber : left.portNumber = right.portNumber
  formParameters : left.formParameters = right.formParameters
  cookies : left.cookies = right.cookies
  partList : left.partList = right.partList

theorem seenAlike_rearranged {request : Request} {headers : Headers}
    (rearranged : Headers.Rearranged request.headers headers) :
    SeenAlike request { request with headers } := by
  have values : request.headerValues = ({ request with headers } : Request).headerValues :=
    funext rearranged.values_eq
  have authority : request.authority = ({ request with headers } : Request).authority := by
    rw [Request.authority, Request.authority, values]
  have contentType : request.contentType = ({ request with headers } : Request).contentType := by
    rw [Request.contentType, Request.contentType, values]
  have isForm : request.isForm = ({ request with headers } : Request).isForm := by
    rw [Request.isForm, Request.isForm, contentType]
  exact
    { method := rfl
      url := rfl
      scheme := rfl
      body := rfl
      headerValues := values
      hostName := by rw [Request.hostName, Request.hostName, authority]
      portNumber := by rw [Request.portNumber, Request.portNumber, authority]
      formParameters := by rw [Request.formParameters, Request.formParameters, isForm]
      cookies := by rw [Request.cookies, Request.cookies, values]
      partList := by
        rw [Request.partList, Request.partList, Request.bodyParts, Request.bodyParts, contentType] }

private theorem seenAlike_asked (request : Request) : SeenAlike request request.asked :=
  { method := rfl
    url := rfl
    scheme := rfl
    body := rfl
    headerValues := rfl
    hostName := rfl
    portNumber := rfl
    formParameters := rfl
    cookies := rfl
    partList := (partList_asked request).symm }

end Http.Request

namespace RequestPattern

open Http (Headers Request)

variable {R : Type} [Scalar R]

private theorem urlRows_seenAlike (pattern : RequestPattern) {left right : Request}
    (alike : left.SeenAlike right) :
    (urlRows pattern left : List (FieldMatch R)) = urlRows pattern right := by
  have path : left.path = right.path := by rw [Request.path, Request.path, alike.url]
  have actual : pattern.url.actual left = pattern.url.actual right := by
    cases url : pattern.url <;> simp only [UrlPattern.actual, path, alike.url]
  have result : (pattern.url.evaluate left : MatchResult R) = pattern.url.evaluate right := by
    cases url : pattern.url <;>
      simp only [UrlPattern.evaluate, UrlPattern.actual, path, alike.url]
  rw [urlRows, urlRows, actual, result]

private theorem evaluate_seenAlike (now : Calendar.Instant) (pattern : RequestPattern)
    {left right : Request} (alike : left.SeenAlike right) :
    (pattern.evaluate now left : MatchReport R) = pattern.evaluate now right := by
  have path : left.path = right.path := by rw [Request.path, Request.path, alike.url]
  have queryValues : left.queryValues = right.queryValues := by
    funext name
    rw [Request.queryValues, Request.queryValues, Request.queryParameters,
      Request.queryParameters, Request.query, Request.query, alike.url]
  have formValues : left.formValues = right.formValues := by
    funext name
    rw [Request.formValues, Request.formValues, alike.formParameters]
  have cookieValue : left.cookieValue = right.cookieValue := by
    funext name
    rw [Request.cookieValue, Request.cookieValue, alike.cookies]
  have pathParameters : pattern.url.pathParameters left = pattern.url.pathParameters right := by
    cases url : pattern.url <;> simp only [UrlPattern.pathParameters, path]
  simp only [evaluate, methodRows, schemeRows, hostRows, portRows, bodyRows, multipartRows,
    Request.bodyText, urlRows_seenAlike pattern alike, alike.method, alike.scheme, alike.body,
    alike.hostName, alike.portNumber, alike.headerValues, alike.partList, queryValues, formValues,
    cookieValue, pathParameters]

/-- An evaluation, which asks for the parts, leaves all later ones as they are. -/
theorem evaluate_asked (now : Calendar.Instant) (pattern : RequestPattern) (request : Request) :
    (pattern.evaluate now request.asked : MatchReport R) = pattern.evaluate now request :=
  (evaluate_seenAlike now pattern request.seenAlike_asked).symm

/-- Headers are rearranged just if the values of each name, in any case, stay in order; and then
all that patterns ask of a request, and so every row of their evaluation, stays the same. -/
theorem evaluate_rearranged (R : Type) [Scalar R] :
    (∀ left right : Headers,
      Headers.Rearranged left right ↔ ∀ name, left.values name = right.values name) ∧
    ∀ (request : Request) (headers : Headers), Headers.Rearranged request.headers headers →
      let other := { request with headers }
      request.SeenAlike other ∧
        ∀ (now : Calendar.Instant) (pattern : RequestPattern),
          (pattern.evaluate now request : MatchReport R) = pattern.evaluate now other := by
  refine ⟨fun _ _ => Headers.Rearranged.iff_values_eq, fun request headers rearranged => ?_⟩
  have alike := Request.seenAlike_rearranged rearranged
  exact ⟨alike, fun now pattern => evaluate_seenAlike now pattern alike⟩

theorem evaluate_rearranged_cookie :
    let request : Request :=
      { method := "GET", url := "/",
        headers := [("Host", "a.test"), ("Cookie", "user=anna"), ("host", "b.test")] }
    let headers : Headers := [("cookie", "user=anna"), ("HOST", "a.test"), ("Host", "b.test")]
    let pattern : RequestPattern :=
      { headers := [("host", .includes [.equalTo "b.test" false, .equalTo "a.test" false])],
        cookies := [("user", .equalTo "anna" false)] }
    let now : Calendar.Instant := ⟨0, 0⟩
    Headers.Rearranged request.headers headers ∧
      (pattern.evaluate now request : MatchReport Rat).isExact ∧
      (pattern.evaluate now request : MatchReport Rat) =
        pattern.evaluate now { request with headers } := by
  intro request headers pattern now
  have rearranged : Headers.Rearranged request.headers headers :=
    .trans (.swap (by decide +kernel))
      (.cons (by decide +kernel) (.cons (by decide +kernel) (.cons (by decide +kernel) .nil)))
  have exact : (pattern.evaluate now request : MatchReport Rat).isExact := by decide +kernel
  exact ⟨rearranged, exact,
    ((evaluate_rearranged Rat).2 request headers rearranged).2 now pattern⟩

end RequestPattern

end ServiceStub
