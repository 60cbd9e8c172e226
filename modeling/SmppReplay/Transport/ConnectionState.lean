/-!
# Connection states

What a connection reports of itself.
-/

namespace SmppReplay
namespace Transport

/-- The state of a connection. -/
inductive ConnectionState where
  | connected
  /-- Closed by either side. -/
  | disconnected
  /-- Reading from the peer failed. -/
  | failed
  deriving DecidableEq, Repr

/-- The state as transcripts show it. -/
def ConnectionState.render : ConnectionState → String
  | .connected => "connected"
  | .disconnected => "disconnected"
  | .failed => "failed"

end Transport
end SmppReplay
