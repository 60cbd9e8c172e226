import SmppReplay.Pdu.MessageType
import SmppReplay.Transport.ConnectionState
import SmppReplay.Transport.Error

/-!
# Scripted peers

What a peer does in a rehearsal: the results of opening and closing connections, what
happens when it is sent a frame, and what it does at given times.
-/

namespace SmppReplay
namespace Rehearsal

/-- What happens when a frame is handed over on a live connection. -/
structure SendAction where
  /-- The sending fails with this, and nothing else happens. -/
  failure : Option Transport.Error := none
  /-- Frames that the peer will send when the script pauses. -/
  queued : List (List UInt8) := []
  /-- Frames that the peer sends before the sending returns. -/
  inline : List (List UInt8) := []
  /-- Somebody tries to cut a pause short. -/
  interrupts : Bool := false
  /-- The state that the connection reports from now on. -/
  state : Option Transport.ConnectionState := none
  /-- The peer closes the connection, or it breaks. -/
  loses : Bool := false
  deriving DecidableEq, Repr

/-- What happens at a time, in milliseconds since the start of the run. -/
structure TimedAction where
  time : Nat
  /-- Frames that the peer sends. -/
  deliver : List (List UInt8) := []
  loses : Bool := false
  interrupts : Bool := false
  deriving DecidableEq, Repr

/-- What a peer does.  Results and actions that are not listed are successes without further
effect. -/
structure Peer where
  /-- The results of opening connections, in order. -/
  opens : List Transport.Result := []
  /-- The results of closing connections, in order. -/
  closes : List Transport.Result := []
  /-- What happens at each sending on a live connection, in order. -/
  sends : List SendAction := []
  /-- Frames that the peer will send, when the script pauses, for each message of a type. -/
  replies : List (MessageType × List (List UInt8)) := []
  /-- What happens at given times, in order. -/
  timeline : List TimedAction := []
  deriving DecidableEq, Repr

end Rehearsal
end SmppReplay
