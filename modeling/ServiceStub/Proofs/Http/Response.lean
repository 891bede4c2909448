import ServiceStub.Http.Response
import ServiceStub.Proofs.Text.Base64

/-! Of which definitions a response can be made, and what every response is like. -/

namespace ServiceStub.Http

/-- A status of three digits, and headers with names and values of the characters allowed. -/
structure Response.WellFormed (response : Response) : Prop where
  status : 100 ≤ response.status ∧ response.status ≤ 999
  headers : ∀ header ∈ response.headers, isToken header.1 ∧ isHeaderValue header.2

namespace ResponseDefinition

variable {definition : ResponseDefinition} {response : Response}

end ResponseDefinition

end ServiceStub.Http
