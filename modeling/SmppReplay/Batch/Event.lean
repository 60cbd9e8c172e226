import SmppReplay.Pdu.Message
import SmppReplay.Transport.Endpoint

/-!
# Batches

A batch is the list of things to do in one run, in order.
-/

namespace SmppReplay

/-- The length of a pause, at least one millisecond. -/
structure Millis where
  val : UInt64
  ne_zero : val ≠ 0
  deriving DecidableEq, Repr

/-- The length of a pause, unless it is zero. -/
def Millis.ofUInt64? (n : UInt64) : Option Millis :=
  if h : n ≠ 0 then some ⟨n, h⟩ else none

/-- One thing to do. -/
inductive Event where
  | send (message : Message)
  | connect (peer : Transport.Endpoint)
  | disconnect
  | pause (length : Millis)
  /-- Switches the automatic reply to messages of a type on or off. -/
  | setAutoReply (type : MessageType) (enabled : Bool)
  deriving DecidableEq, Repr

/-- Things to do, in order. -/
abbrev Batch := List Event

end SmppReplay
