import ServiceStub.Http.Request
import ServiceStub.Proofs.Text.Chars

/-!
Where the path and the query of a request stand in its URL.  The path ends where the query or the
fragment begins, but a URL without a query has one read out of its fragment.
-/

namespace ServiceStub.Http

/-- The parts of a URL: a path, a query behind a question mark, and a fragment behind a number
sign.  A path has neither of these signs, and a query has no number sign. -/
@[ext]
structure UrlParts where
  path : String
  query : Option String
  fragment : Option String
  path_free : '?' ∉ path.toList ∧ '#' ∉ path.toList
  query_free : ∀ text ∈ query, '#' ∉ text.toList

namespace UrlParts

variable {parts other : UrlParts}

def signed (sign : Char) (part : Option String) : List Char :=
  part.elim [] fun text => sign :: text.toList

def toString (parts : UrlParts) : String :=
  String.ofList (parts.path.toList ++ (signed '?' parts.query ++ signed '#' parts.fragment))

private theorem toList_toString (parts : UrlParts) :
    parts.toString.toList =
      parts.path.toList ++ (signed '?' parts.query ++ signed '#' parts.fragment) :=
  String.toList_ofList

private theorem signed_inj {sign : Char} {part otherPart : Option String}
    (same : signed sign part = signed sign otherPart) : part = otherPart := by
  cases part with
  | none =>
      cases otherPart with
      | none => rfl
      | some text => cases same
  | some text =>
      cases otherPart with
      | none => cases same
      | some otherText => rw [String.toList_inj.mp (List.cons.inj same).2]

private theorem takeWhile_signed {text : String} (free : '#' ∉ text.toList)
    (fragment : Option String) :
    (text.toList ++ signed '#' fragment).takeWhile (· != '#') = text.toList := by
  have plain : ∀ c ∈ text.toList, (c != '#') = true := by
    intro c member
    exact bne_iff_ne.mpr fun same => free (same ▸ member)
  rw [List.takeWhile_append_of_pos plain]
  cases fragment <;> exact List.append_nil _

private theorem takeWhile_toString (parts : UrlParts) :
    parts.toString.toList.takeWhile (fun c => c != '?' && c != '#') = parts.path.toList := by
  have plain : ∀ c ∈ parts.path.toList, (c != '?' && c != '#') = true := by
    intro c member
    rw [Bool.and_eq_true, bne_iff_ne, bne_iff_ne]
    exact ⟨fun same => parts.path_free.1 (same ▸ member),
      fun same => parts.path_free.2 (same ▸ member)⟩
  rw [toList_toString, List.takeWhile_append_of_pos plain]
  cases parts.query with
  | none => cases parts.fragment <;> exact List.append_nil _
  | some text => exact List.append_nil _

private theorem head_signed_append (parts : UrlParts) :
    (signed '?' parts.query ++ signed '#' parts.fragment).head? = some '?' ↔
      parts.query.isSome := by
  cases parts.query with
  | none => cases parts.fragment <;> simp [signed]
  | some text => simp [signed]

private theorem query_eq_of_signed (same : signed '?' parts.query ++ signed '#' parts.fragment =
      signed '?' other.query ++ signed '#' other.fragment) : parts.query = other.query := by
  have present : parts.query.isSome ↔ other.query.isSome := by
    rw [← head_signed_append, same, head_signed_append]
  cases query : parts.query with
  | none =>
      rw [query] at present
      exact (Option.not_isSome_iff_eq_none.mp (mt present.mpr nofun)).symm
  | some text =>
      rw [query] at present
      obtain ⟨otherText, otherQuery⟩ := Option.isSome_iff_exists.mp (present.mp rfl)
      rw [query, otherQuery] at same
      have behind : text.toList ++ signed '#' parts.fragment =
          otherText.toList ++ signed '#' other.fragment := (List.cons.inj same).2
      have sameText : text = otherText := by
        rw [← String.toList_inj, ← takeWhile_signed (parts.query_free text query) parts.fragment,
          behind, takeWhile_signed (other.query_free otherText otherQuery)]
      rw [otherQuery, sameText]

private theorem toString_inj (same : parts.toString = other.toString) : parts = other := by
  have path : parts.path = other.path := by
    rw [← String.toList_inj, ← takeWhile_toString, same, takeWhile_toString]
  have tails : signed '?' parts.query ++ signed '#' parts.fragment =
      signed '?' other.query ++ signed '#' other.fragment := by
    have whole := congrArg String.toList same
    rw [toList_toString, toList_toString, path] at whole
    exact List.append_cancel_left whole
  have query : parts.query = other.query := query_eq_of_signed tails
  have fragment : parts.fragment = other.fragment := by
    rw [query] at tails
    exact signed_inj (List.append_cancel_left tails)
  exact UrlParts.ext path query fragment

private theorem exists_query (rest : List Char) :
    ∃ (query : String) (fragment : Option String),
      '#' ∉ query.toList ∧ rest = query.toList ++ signed '#' fragment := by
  obtain ⟨query, free, cut⟩ := Text.exists_cut (· == '#') rest
  have queryFree : '#' ∉ (String.ofList query).toList := by
    rw [String.toList_ofList]
    exact fun member => Bool.noConfusion (free _ member)
  rcases cut with uncut | ⟨sign, fragment, isSign, cut⟩
  · exact ⟨String.ofList query, none, queryFree, by simp [uncut, signed]⟩
  · cases eq_of_beq isSign
    exact ⟨String.ofList query, some (String.ofList fragment), queryFree, by simp [cut, signed]⟩

private theorem exists_toString (url : String) : ∃ parts : UrlParts, parts.toString = url := by
  obtain ⟨path, free, cut⟩ := Text.exists_cut (fun c => c == '?' || c == '#') url.toList
  have pathFree : '?' ∉ (String.ofList path).toList ∧ '#' ∉ (String.ofList path).toList := by
    rw [String.toList_ofList]
    exact ⟨fun member => Bool.noConfusion (free _ member),
      fun member => Bool.noConfusion (free _ member)⟩
  have joined (parts : UrlParts) (whole : url.toList =
      parts.path.toList ++ (signed '?' parts.query ++ signed '#' parts.fragment)) :
      parts.toString = url := by
    rw [← String.toList_inj, toList_toString, whole]
  rcases cut with whole | ⟨sign, rest, isSign, whole⟩
  · exact ⟨⟨String.ofList path, none, none, pathFree, nofun⟩, joined _ (by simp [whole, signed])⟩
  · rw [Bool.or_eq_true, beq_iff_eq, beq_iff_eq] at isSign
    rcases isSign with rfl | rfl
    · obtain ⟨query, fragment, free, cut⟩ := exists_query rest
      have queryFree : ∀ text ∈ some query, '#' ∉ text.toList := by
        rintro _ ⟨⟩
        exact free
      exact ⟨⟨String.ofList path, some query, fragment, pathFree, queryFree⟩,
        joined _ (by simp [whole, cut, signed])⟩
    · exact ⟨⟨String.ofList path, none, some (String.ofList rest), pathFree, nofun⟩,
        joined _ (by simp [whole, signed])⟩

/-- What stands in the fragment behind a question mark, up to the next number sign. -/
def strayQuery (parts : UrlParts) : Option String :=
  parts.fragment.bind fun fragment =>
    (Text.splitOnce '?' fragment.toList).map fun (_, rest) =>
      String.ofList (rest.takeWhile (· != '#'))

private theorem strayQuery_eq_none_iff :
    parts.strayQuery = none ↔ ∀ text ∈ parts.fragment, '?' ∉ text.toList := by
  simp only [strayQuery, Option.bind_eq_none_iff, Option.map_eq_none_iff,
    Text.splitOnce_eq_none_iff, Option.mem_def]

end UrlParts

namespace Request

variable {request : Request} {parts : UrlParts}

private theorem path_eq (same : parts.toString = request.url) : request.path = parts.path := by
  rw [path, ← same, parts.takeWhile_toString, String.ofList_toList]

private theorem query_eq (same : parts.toString = request.url) :
    request.query = parts.query.or parts.strayQuery := by
  rw [query, ← same, UrlParts.toList_toString]
  cases query : parts.query with
  | some text =>
      have cut : Text.splitOnce '?' (parts.path.toList ++
          (UrlParts.signed '?' (some text) ++ UrlParts.signed '#' parts.fragment)) =
            some (parts.path.toList, text.toList ++ UrlParts.signed '#' parts.fragment) :=
        Text.splitOnce_append parts.path_free.1 _
      have stops := UrlParts.takeWhile_signed (parts.query_free text query) parts.fragment
      rw [cut, Option.some_or]
      exact congrArg some ((congrArg String.ofList stops).trans String.ofList_toList)
  | none =>
      rw [Text.splitOnce_append_left parts.path_free.1, Option.none_or, UrlParts.strayQuery]
      cases parts.fragment with
      | none => rfl
      | some fragment =>
          have numberSign : '?' ∉ ['#'] := by decide
          have behind : UrlParts.signed '?' none ++ UrlParts.signed '#' (some fragment) =
              ['#'] ++ fragment.toList := rfl
          rw [behind, Text.splitOnce_append_left numberSign, Option.map_map, Option.map_map]
          rfl

def CutsUrl (request : Request) : Prop :=
  ∃ parts : UrlParts, parts.toString = request.url ∧
    request.path = parts.path ∧ request.query = parts.query

/-- A URL has a path, a query and a fragment in one way.  The path of a request is that path, and
its query is that query, but where there is none it is what stands behind a question mark in the
fragment; the parameters are read out of it.  So the URL is cut into its parts unless it has no
query and a question mark in its fragment. -/
theorem cutsUrl_iff (request : Request) :
    ∃ parts : UrlParts,
      (∀ other : UrlParts, other.toString = request.url ↔ other = parts) ∧
      request.path = parts.path ∧
      request.query = parts.query.or parts.strayQuery ∧
      request.queryParameters = (parts.query.or parts.strayQuery).elim []
        (fun text => Form.parse (Text.toBytes text)) ∧
      (request.CutsUrl ↔
        (parts.query = none → ∀ text ∈ parts.fragment, '?' ∉ text.toList)) := by
  obtain ⟨parts, same⟩ := UrlParts.exists_toString request.url
  have queried := query_eq same
  refine ⟨parts, ?_, path_eq same, queried, ?_, ?_⟩
  · intro other
    exact ⟨fun otherSame => UrlParts.toString_inj (otherSame.trans same.symm), (· ▸ same)⟩
  · rw [queryParameters, queried]
    cases parts.query.or parts.strayQuery <;> rfl
  · rw [← UrlParts.strayQuery_eq_none_iff]
    constructor
    · rintro ⟨other, otherSame, -, cut⟩ missing
      rw [UrlParts.toString_inj (otherSame.trans same.symm), queried, missing] at cut
      exact cut
    · intro clean
      refine ⟨parts, same, path_eq same, ?_⟩
      rw [queried]
      cases query : parts.query with
      | none => exact clean query
      | some text => rfl

/-- A question mark in a fragment passes for the start of a query. -/
theorem query_read_from_fragment :
    ¬(ofMethod "GET" "/a#b?c=1").CutsUrl ∧ (ofMethod "GET" "/a#b?c=1").queryValues "c" = ["1"] := by
  refine ⟨?_, by decide +kernel⟩
  rintro ⟨parts, same, pathSame, querySame⟩
  have path : parts.path = "/a" := by rw [← pathSame]; decide +kernel
  have query : parts.query = some "c=1" := by rw [← querySame]; decide +kernel
  have whole := congrArg String.toList same
  rw [UrlParts.toList_toString, path, query] at whole
  simp [ofMethod, UrlParts.signed] at whole

end Request

end ServiceStub.Http
