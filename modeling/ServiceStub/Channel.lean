import ServiceStub.Pattern.Request
import ServiceStub.Uuid

namespace ServiceStub

structure Channel where
  id : Uuid
  request : Http.Request
  deriving DecidableEq

def Channel.toJson (channel : Channel) : Json :=
  Json.record
    [("id", some (.string channel.id.toString)), ("request", some channel.request.toJson)]

/-- The open channels, with pairwise different ids, in the order in which they were opened. -/
structure Channels where
  toList : List Channel := []
  deriving DecidableEq

namespace Channels

def find? (channels : Channels) (id : Uuid) : Option Channel :=
  channels.toList.find? fun channel => channel.id == id

def erase (channels : Channels) (id : Uuid) : Channels :=
  ⟨channels.toList.filter fun channel => channel.id != id⟩

/-- Open a channel.  An open channel with the same id is closed. -/
def insert (channels : Channels) (channel : Channel) : Channels :=
  ⟨(channels.erase channel.id).toList ++ [channel]⟩

def matching (R : Type) [Scalar R] (now : Calendar.Instant) (channels : Channels)
    (pattern : RequestPattern) : List Channel :=
  channels.toList.filter fun channel =>
    (pattern.evaluate now channel.request : MatchReport R).isExact

end Channels

end ServiceStub
