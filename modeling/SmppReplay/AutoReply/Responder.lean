import SmppReplay.AutoReply.TypeSet
import SmppReplay.Pdu.Decode
import SmppReplay.Pdu.Encode
import SmppReplay.Transcript.Entry
import SmppReplay.Transport.Error

/-!
# Automatic replies

**Input.**  A frame from the peer, and the set of types that are answered.

**Rules.**

* Every frame that holds a header makes one entry: with the message if the frame is one,
  else with the words of its header only.  A shorter frame makes none.
* A request of a type in the set is answered at once, if the type is one that can be
  answered: the answer has the request's number, the status of success and default fields.
* The outcome of sending the answer makes one more entry, and nothing else.
-/

namespace SmppReplay
namespace AutoReply

open Transcript (Entry)

/-- The types that are answered when nothing else is said. -/
def standardTypes : List MessageType :=
  [.enquireLink, .deliverSm]

/-- The types that can be answered. -/
def isAnswerable : MessageType → Bool
  | .enquireLink | .deliverSm => true
  | _ => false

/-- The entry for a frame of which only the header is understood. -/
def headerEntry (h : Pdu.Header) : Entry where
  kind := .received
  text := s!"Received PDU, seq={h.sequence.toNat}, type={MessageType.label h.commandId}, " ++
    s!"status={StatusCode.label h.status}"

/-- The entry that the arrival of a frame makes. -/
def arrivalEntry (frame : List UInt8) : Option Entry :=
  match Pdu.decode frame with
  | .ok m => some (.received m)
  | .error _ =>
      match Pdu.Header.parse frame with
      | .ok h => some (headerEntry h)
      | .error _ => none

/-- The answer that is due to a frame. -/
def reply? (enabled : TypeSet) (frame : List UInt8) : Option Message :=
  match Pdu.decode frame with
  | .ok m => if isAnswerable m.type && enabled.contains m.type then m.response? else none
  | .error _ => none

/-- The entry that the sending of a message makes, with the cause if it failed. -/
def outcomeEntry (m : Message) : Option String → Entry
  | none => .sent m
  | some cause => .sendFailed m cause

/-- What one frame leads to: the entries, and the octets that were handed over for sending. -/
structure Response where
  entries : List Entry
  attempt : Option (List UInt8)
  deriving DecidableEq, Repr

/-- Takes one frame; `send` tells the result of handing octets over for sending. -/
def respond (enabled : TypeSet) (send : List UInt8 → Transport.Result)
    (frame : List UInt8) : Response :=
  let arrival := (arrivalEntry frame).toList
  match reply? enabled frame with
  | none => ⟨arrival, none⟩
  | some m =>
      match Pdu.encode m with
      | .ok bs => ⟨arrival ++ [outcomeEntry m (send bs).cause?], some bs⟩
      | .error e => ⟨arrival ++ [outcomeEntry m (some e.message)], none⟩

/-- The entry for a connection that the peer closed or that broke. -/
def lostEntry : Entry where
  kind := .connectionLost
  text := "Connection lost"

end AutoReply
end SmppReplay
