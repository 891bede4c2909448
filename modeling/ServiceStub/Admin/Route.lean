import ServiceStub.Text.Chars

namespace ServiceStub

inductive AdminRoute where
  | ping
  | reset
  | mappings
  | mappingsReset
  | mappingsRemove
  | mappingsFindByMetadata
  | mappingsRemoveByMetadata
  | mapping (id : String)
  | scenarios
  | scenariosReset
  | scenarioState (name : String)
  | requests
  | requestsFind
  | requestsCount
  | requestsUnmatched
  | requestsUnmatchedNearMisses
  | nearMissesForRequest
  | nearMissesForPattern
  | messageMappings
  | messageMapping (id : String)
  | channels
  | channel (id : String)
  | channelMessages (id : String)
  deriving Repr, DecidableEq

namespace AdminRoute

/-- The route of a path given as its segments.  A segment that stands for a parameter is taken
as it is written; at the end of a path it must not be empty. -/
def ofSegments? : List String → Option AdminRoute
  | ["ping"] => some .ping
  | ["reset"] => some .reset
  | ["mappings"] => some .mappings
  | ["mappings", "reset"] => some .mappingsReset
  | ["mappings", "remove"] => some .mappingsRemove
  | ["mappings", "find-by-metadata"] => some .mappingsFindByMetadata
  | ["mappings", "remove-by-metadata"] => some .mappingsRemoveByMetadata
  | ["mappings", id] => if id.isEmpty then none else some (.mapping id)
  | ["scenarios"] => some .scenarios
  | ["scenarios", "reset"] => some .scenariosReset
  | ["scenarios", name, "state"] => some (.scenarioState name)
  | ["requests"] => some .requests
  | ["requests", "find"] => some .requestsFind
  | ["requests", "count"] => some .requestsCount
  | ["requests", "unmatched"] => some .requestsUnmatched
  | ["requests", "unmatched", "near-misses"] => some .requestsUnmatchedNearMisses
  | ["near-misses", "request"] => some .nearMissesForRequest
  | ["near-misses", "request-pattern"] => some .nearMissesForPattern
  | ["message-mappings"] => some .messageMappings
  | ["message-mappings", id] => if id.isEmpty then none else some (.messageMapping id)
  | ["channels"] => some .channels
  | ["channels", id] => if id.isEmpty then none else some (.channel id)
  | ["channels", id, "messages"] => some (.channelMessages id)
  | _ => none

def ofPath? (path : String) : Option AdminRoute :=
  match (Text.splitAt (· == '/') path.toList).map String.ofList with
  | "" :: "__admin" :: segments => ofSegments? segments
  | _ => none

end AdminRoute

end ServiceStub
