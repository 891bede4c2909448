import ServiceStub.Http.Request
import Mathlib.Data.List.Induction

/-!
Parts that a request keeps once it was asked for them.  A new body drops them but a new header does
not, so they are those of the body unless somebody asked before the content type was there.
-/

namespace ServiceStub.Http

namespace Request

inductive Call where
  | withScheme (scheme : String)
  | withHost (host : String)
  | withPort (port : Nat)
  | withHeader (name value : String)
  | withBody (body : Bytes)
  | withParts (parts : List Part)
  | askParts
  deriving Repr, DecidableEq

def perform (request : Request) : Call → Request
  | .withScheme scheme => request.withScheme scheme
  | .withHost host => request.withHost host
  | .withPort port => request.withPort port
  | .withHeader name value => request.withHeader name value
  | .withBody body => request.withBody body
  | .withParts parts => request.withParts parts
  | .askParts => request.asked

def run (request : Request) (calls : List Call) : Request := calls.foldl perform request

/-- The parts of the present body were asked for while the request had no content type. -/
def AskedEarly (request : Request) (calls : List Call) : Prop :=
  ∃ before after, calls = before ++ .askParts :: after ∧ (∀ body, .withBody body ∉ after) ∧
    (request.run before).contentType = none

variable {request : Request} {call : Call} {calls : List Call}

theorem run_append (request : Request) (before after : List Call) :
    request.run (before ++ after) = (request.run before).run after := List.foldl_append

theorem decoded_of_ofJson {document : Json} (read : ofJson document = some request) :
    request.decoded = none := by
  simp only [ofJson, Option.bind_eq_bind, Option.bind_eq_some_iff, Option.pure_def,
    Option.some.injEq] at read
  obtain ⟨-, -, -, -, -, -, -, -, -, -, -, -, -, -, -, -, -, -, rfl⟩ := read
  rfl

theorem decoded_of_toRequest {incoming : Incoming} (read : incoming.toRequest = .ok request) :
    request.decoded = none := by
  rw [Incoming.toRequest] at read
  split at read
  · cases read
    rfl
  · cases read

theorem partList_asked (request : Request) : request.asked.partList = request.partList := by
  cases given : request.parts <;> simp only [partList, asked, given, Option.getD_some]

private theorem bodyParts_eq_nil (unknown : request.contentType = none) :
    request.bodyParts = [] := by
  rw [bodyParts, unknown, Option.bind_none]

private theorem contentType_withHeader {contentType : String}
    (known : request.contentType = some contentType) (name value : String) :
    (request.withHeader name value).contentType = some contentType := by
  rw [Request.contentType, headerValues, Headers.values] at known
  rw [Request.contentType, headerValues, Headers.values, withHeader, List.filter_append,
    List.map_append, List.head?_append, known, Option.some_or]

private theorem contentType_perform {contentType : String}
    (known : request.contentType = some contentType) :
    (request.perform call).contentType = some contentType := by
  cases call with
  | withHeader name value => exact contentType_withHeader known name value
  | withScheme | withHost | withPort | withBody | withParts | askParts => exact known

private theorem parts_perform (notGiven : (request.perform call).parts = none) :
    request.parts = none := by
  cases call with
  | withParts parts => cases notGiven
  | withScheme | withHost | withPort | withHeader | withBody | askParts => exact notGiven

private theorem body_perform (otherCall : ∀ body, call ≠ .withBody body) :
    (request.perform call).body = request.body := by
  cases call with
  | withBody body => exact absurd rfl (otherCall body)
  | withScheme | withHost | withPort | withHeader | withParts | askParts => rfl

private theorem decoded_asked {parts : List Part} (kept : request.asked.decoded = some parts) :
    request.decoded = some parts ∨ parts = request.bodyParts := by
  rw [asked] at kept
  cases given : request.parts with
  | some others => exact .inl (by simpa only [given] using kept)
  | none =>
      simp only [given, Option.some.injEq] at kept
      cases known : request.decoded with
      | some before => exact .inl (by rw [← kept, known, Option.getD_some])
      | none => exact .inr (by rw [← kept, known, Option.getD_none])

private theorem decoded_perform {parts : List Part}
    (kept : (request.perform call).decoded = some parts) :
    (request.decoded = some parts ∧ ∀ body, call ≠ .withBody body) ∨
      (call = .askParts ∧ parts = request.bodyParts) := by
  cases call with
  | withBody body => cases kept
  | askParts => exact (decoded_asked kept).imp (⟨·, nofun⟩) (⟨rfl, ·⟩)
  | withScheme | withHost | withPort | withHeader | withParts => exact .inl ⟨kept, nofun⟩

private theorem contentType_run {contentType : String}
    (known : request.contentType = some contentType)
    (calls : List Call) : (request.run calls).contentType = some contentType := by
  induction calls generalizing request with
  | nil => exact known
  | cons call rest induction => exact induction (contentType_perform known)

private theorem parts_run (notGiven : (request.run calls).parts = none) : request.parts = none := by
  induction calls generalizing request with
  | nil => exact notGiven
  | cons call rest induction => exact parts_perform (induction notGiven)

private theorem body_run (otherCalls : ∀ body, .withBody body ∉ calls) :
    (request.run calls).body = request.body := by
  induction calls generalizing request with
  | nil => rfl
  | cons call rest induction =>
      have others := fun body => List.not_mem_of_not_mem_cons (otherCalls body)
      have first := fun body => (List.ne_of_not_mem_cons (otherCalls body)).symm
      exact (induction others).trans (body_perform first)

/-- Nobody asks too early who waits for the content type. -/
theorem not_askedEarly {start : Request} {before : List Call} {contentType : String}
    (waited : .askParts ∉ before)
    (known : (start.run before).contentType = some contentType) (after : List Call) :
    ¬start.AskedEarly (before ++ after) := by
  rintro ⟨first, second, split, -, unknown⟩
  rcases List.append_eq_append_iff.mp split with ⟨between, rfl, -⟩ | ⟨between, rfl, rest⟩
  · rw [run_append, contentType_run known] at unknown
    cases unknown
  · cases between with
    | nil =>
        rw [List.append_nil, unknown] at known
        cases known
    | cons call between =>
        obtain ⟨rfl, -⟩ := List.cons.inj rest
        exact waited (List.mem_append_right first List.mem_cons_self)

/-- Parts that are kept are those of the body at the time when somebody asked, and there was no new
body since. -/
theorem exists_asked {start : Request} (fresh : start.decoded = none) {parts : List Part}
    (kept : (start.run calls).decoded = some parts) :
    ∃ before after, calls = before ++ .askParts :: after ∧ (∀ body, .withBody body ∉ after) ∧
      parts = (start.run before).bodyParts := by
  induction calls using List.reverseRecOn with
  | nil => cases fresh.symm.trans kept
  | append_singleton calls call induction =>
      rw [run_append] at kept
      rcases decoded_perform kept with ⟨earlier, otherCall⟩ | ⟨rfl, read⟩
      · obtain ⟨before, after, rfl, others, read⟩ := induction earlier
        refine ⟨before, after ++ [call], by simp, fun body member => ?_, read⟩
        rcases List.mem_append.mp member with listed | last
        · exact others body listed
        · exact otherCall body (List.mem_singleton.mp last).symm
      · exact ⟨calls, [], rfl, fun _ => List.not_mem_nil, read⟩

private theorem decoded_run {parts : List Part} (kept : request.decoded = some parts)
    (otherCalls : ∀ body, .withBody body ∉ calls) :
    (request.run calls).decoded = some parts := by
  induction calls generalizing request with
  | nil => exact kept
  | cons call rest induction =>
      refine induction ?_ fun body => List.not_mem_of_not_mem_cons (otherCalls body)
      cases call with
      | withBody body => exact absurd List.mem_cons_self (otherCalls body)
      | askParts =>
          cases given : request.parts <;> simp only [perform, asked, given, kept, Option.getD_some]
      | withScheme | withHost | withPort | withHeader | withParts => exact kept

private theorem bodyParts_run {contentType : String}
    (known : request.contentType = some contentType) (otherCalls : ∀ body, .withBody body ∉ calls) :
    (request.run calls).bodyParts = request.bodyParts := by
  rw [bodyParts, bodyParts, contentType_run known, known, body_run otherCalls]

private theorem decoded_asked_run {start : Request} (fresh : start.decoded = none)
    (notGiven : (start.run calls).parts = none)
    (unknown : (start.run calls).contentType = none) :
    (start.run calls).asked.decoded = some [] := by
  cases kept : (start.run calls).decoded with
  | none => simp only [asked, notGiven, kept, Option.getD_none, bodyParts_eq_nil unknown]
  | some parts =>
      obtain ⟨before, after, rfl, -, rfl⟩ := exists_asked fresh kept
      have unknownBefore : (start.run before).contentType = none := by
        cases known : (start.run before).contentType with
        | none => rfl
        | some contentType =>
            rw [run_append, contentType_run known] at unknown
            cases unknown
      simp only [asked, notGiven, kept, Option.getD_some, bodyParts_eq_nil unknownBefore]

/-- What a request that was given no parts answers: the parts of its body, or none where somebody
asked for them too early. -/
theorem partList_run {start : Request} (fresh : start.decoded = none)
    (notGiven : (start.run calls).parts = none) :
    (¬start.AskedEarly calls → (start.run calls).partList = (start.run calls).bodyParts) ∧
      (start.AskedEarly calls → (start.run calls).partList = []) := by
  simp only [partList, notGiven]
  refine ⟨fun notEarly => ?_, ?_⟩
  · cases kept : (start.run calls).decoded with
    | none => rfl
    | some parts =>
        obtain ⟨before, after, rfl, others, rfl⟩ := exists_asked fresh kept
        cases known : (start.run before).contentType with
        | none => exact absurd ⟨before, after, rfl, others, known⟩ notEarly
        | some contentType =>
            have asked : (start.run before).asked.contentType = some contentType := known
            rw [Option.getD_some, run_append]
            exact (bodyParts_run asked others).symm
  · rintro ⟨before, after, rfl, others, unknown⟩
    rw [run_append] at notGiven ⊢
    have kept := decoded_asked_run fresh (parts_run notGiven) unknown
    have stays : ((start.run before).asked.run after).decoded = some [] := decoded_run kept others
    exact congrArg (Option.getD · _) stays

-- The same request, once asked before its content type was there and once after.
example :
    let body := Text.toBytes "--b\r\n\r\n\r\n--b--\r\n"
    let header : Call := .withHeader "Content-Type" "multipart/form-data; boundary=b"
    let start := ofMethod "POST" "/"
    (start.run [.withBody body, .askParts, header]).partList = [] ∧
      (start.run [.withBody body, header, .askParts]).partList = [⟨none, [], []⟩] := by
  decide +kernel

end Request

end ServiceStub.Http
