/-!
# Endpoints

Where a peer listens.
-/

namespace SmppReplay
namespace Transport

/-- A host by name or address, and a port. -/
structure Endpoint where
  host : String
  port : UInt16
  deriving DecidableEq, Repr

/-- The endpoint as transcripts show it. -/
def Endpoint.render (e : Endpoint) : String :=
  s!"{e.host}:{e.port.toNat}"

end Transport
end SmppReplay
