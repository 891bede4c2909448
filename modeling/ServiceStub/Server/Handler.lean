import ServiceStub.Admin.Request
import ServiceStub.Report.Plain

/-! Answering requests: those to the administration change or show the state, all others are
answered by stubs. -/

namespace ServiceStub

inductive ReportFormat where
  | plain
  | json
  deriving Repr, DecidableEq

namespace ReportFormat

def contentType : ReportFormat → String
  | .plain => "text/plain; charset=utf-8"
  | .json => "application/json"

def render (format : ReportFormat) (request : Http.Request)
    (nearMisses : List (NearMiss HttpStub Float)) : String :=
  match format with
  | .plain => Report.plainText request nearMisses
  | .json => (NearMiss.document request nearMisses).compact

end ReportFormat

inductive HandlerFault where
  | badRequest (fault : Http.Incoming.Fault)
  | badStubResponse (fault : Http.ResponseFault)
  deriving Repr, DecidableEq

def HandlerFault.message : HandlerFault → String
  | .badRequest fault => "cannot convert request to internal data structure: " ++ fault.message
  | .badStubResponse fault => "cannot build stub response: " ++ fault.message

abbrev Handled := Except HandlerFault Http.Response × ServerState

namespace ServerState

def administrate (request : AdminRequest) (state : ServerState) (route : AdminRoute) :
    Http.Response × ServerState :=
  match request.handle state route with
  | none =>
      ((AdminAnswer.ofMessage 405 (request.method ++ " is not supported here")).toResponse, state)
  | some (.ok (answer, state)) => (answer.toResponse, state)
  | some (.error fault) => ((AdminAnswer.ofFault fault).toResponse, state)

def answerByStub (now : Calendar.Instant) (format : ReportFormat) (state : ServerState)
    (incoming : Http.Incoming) : Handled :=
  match incoming.toRequest with
  | .error fault => (.error (.badRequest fault), state)
  | .ok request =>
      match (state.serve now request : ServeOutcome Float × ServerState) with
      | (.matched stub _ _, state) =>
          match stub.response.toResponse with
          | .ok response => (.ok response, state)
          | .error fault => (.error (.badStubResponse fault), state)
      | (.unmatched nearMisses _, state) =>
          (.ok {
            status := 404
            headers := [("content-type", format.contentType)]
            body := Text.toBytes (format.render request nearMisses) }, state)

/-- Answer any request.  What it creates gets the fresh id unless it names one. -/
def handle (now : Calendar.Instant) (fresh : Uuid) (format : ReportFormat) (state : ServerState)
    (incoming : Http.Incoming) : Handled :=
  match AdminRoute.ofPath? incoming.uri.path with
  | some route =>
      let request : AdminRequest :=
        { now, fresh, method := incoming.method, body := incoming.body }
      let (response, state) := state.administrate request route
      (.ok response, state)
  | none => state.answerByStub now format incoming

end ServerState

end ServiceStub
