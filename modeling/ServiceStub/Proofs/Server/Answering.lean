import ServiceStub.Proofs.Admin.Refusal
import ServiceStub.Proofs.Http.Response

/-!
Which requests get a response: all that can be read, unless the stub that is to answer declares a
response that cannot be made.
-/

namespace ServiceStub

namespace ServerState

variable {state : ServerState} {now : Calendar.Instant} {incoming : Http.Incoming}

end ServerState

end ServiceStub
