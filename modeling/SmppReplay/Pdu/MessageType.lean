import SmppReplay.Text.AsciiCase
import SmppReplay.Text.Blank
import SmppReplay.Text.Numeral

/-!
# Message types

The message types of the protocol, each with its command number and its name.

* `MessageType.ofId?` finds a type by number, `MessageType.ofName?` by name; names are
  compared without regard to blanks at the ends and to the case of ASCII letters.
* `MessageType.response?` pairs a request with its response: the response's number is the
  request's with the top bit set.
-/

namespace SmppReplay

/-- The types of protocol messages, in the order of the protocol's own list. -/
inductive MessageType where
  | genericNack
  | bindReceiver
  | bindReceiverResp
  | bindTransmitter
  | bindTransmitterResp
  | querySm
  | querySmResp
  | submitSm
  | submitSmResp
  | deliverSm
  | deliverSmResp
  | unbind
  | unbindResp
  | replaceSm
  | replaceSmResp
  | cancelSm
  | cancelSmResp
  | bindTransceiver
  | bindTransceiverResp
  | outbind
  | enquireLink
  | enquireLinkResp
  | submitMulti
  | submitMultiResp
  | alertNotification
  | dataSm
  | dataSmResp
  deriving DecidableEq, Repr

namespace MessageType

/-- Every type, in order of declaration. -/
def all : List MessageType := [
  .genericNack, .bindReceiver, .bindReceiverResp, .bindTransmitter, .bindTransmitterResp,
  .querySm, .querySmResp, .submitSm, .submitSmResp, .deliverSm, .deliverSmResp, .unbind,
  .unbindResp, .replaceSm, .replaceSmResp, .cancelSm, .cancelSmResp, .bindTransceiver,
  .bindTransceiverResp, .outbind, .enquireLink, .enquireLinkResp, .submitMulti,
  .submitMultiResp, .alertNotification, .dataSm, .dataSmResp]

/-- The number that stands for the type on the wire. -/
def id : MessageType → UInt32
  | .genericNack => 0x80000000
  | .bindReceiver => 0x00000001
  | .bindReceiverResp => 0x80000001
  | .bindTransmitter => 0x00000002
  | .bindTransmitterResp => 0x80000002
  | .querySm => 0x00000003
  | .querySmResp => 0x80000003
  | .submitSm => 0x00000004
  | .submitSmResp => 0x80000004
  | .deliverSm => 0x00000005
  | .deliverSmResp => 0x80000005
  | .unbind => 0x00000006
  | .unbindResp => 0x80000006
  | .replaceSm => 0x00000007
  | .replaceSmResp => 0x80000007
  | .cancelSm => 0x00000008
  | .cancelSmResp => 0x80000008
  | .bindTransceiver => 0x00000009
  | .bindTransceiverResp => 0x80000009
  | .outbind => 0x0000000B
  | .enquireLink => 0x00000015
  | .enquireLinkResp => 0x80000015
  | .submitMulti => 0x00000021
  | .submitMultiResp => 0x80000021
  | .alertNotification => 0x00000102
  | .dataSm => 0x00000103
  | .dataSmResp => 0x80000103

/-- The name of the type in scripts and transcripts. -/
def name : MessageType → String
  | .genericNack => "GENERIC_NACK"
  | .bindReceiver => "BIND_RECEIVER"
  | .bindReceiverResp => "BIND_RECEIVER_RESP"
  | .bindTransmitter => "BIND_TRANSMITTER"
  | .bindTransmitterResp => "BIND_TRANSMITTER_RESP"
  | .querySm => "QUERY_SM"
  | .querySmResp => "QUERY_SM_RESP"
  | .submitSm => "SUBMIT_SM"
  | .submitSmResp => "SUBMIT_SM_RESP"
  | .deliverSm => "DELIVER_SM"
  | .deliverSmResp => "DELIVER_SM_RESP"
  | .unbind => "UNBIND"
  | .unbindResp => "UNBIND_RESP"
  | .replaceSm => "REPLACE_SM"
  | .replaceSmResp => "REPLACE_SM_RESP"
  | .cancelSm => "CANCEL_SM"
  | .cancelSmResp => "CANCEL_SM_RESP"
  | .bindTransceiver => "BIND_TRANSCEIVER"
  | .bindTransceiverResp => "BIND_TRANSCEIVER_RESP"
  | .outbind => "OUTBIND"
  | .enquireLink => "ENQUIRE_LINK"
  | .enquireLinkResp => "ENQUIRE_LINK_RESP"
  | .submitMulti => "SUBMIT_MULTI"
  | .submitMultiResp => "SUBMIT_MULTI_RESP"
  | .alertNotification => "ALERT_NOTIFICATION"
  | .dataSm => "DATA_SM"
  | .dataSmResp => "DATA_SM_RESP"

/-- The bit that a response's number has and a request's has not. -/
def responseBit : UInt32 := 0x80000000

/-- The type with the given number. -/
def ofId? (n : UInt32) : Option MessageType :=
  all.find? fun t => t.id == n

/-- The type with the given name, up to blanks at the ends and the case of ASCII letters. -/
def ofName? (s : String) : Option MessageType :=
  all.find? fun t => t.name == Text.upperAscii (Text.trim s)

/-- The type with the given name, or the words for an unknown name. -/
def parse (s : String) : Except String MessageType :=
  match ofName? s with
  | some t => .ok t
  | none => .error ("未知的消息类型: " ++ s)

/-- The message answers another one. -/
def isResponse (t : MessageType) : Bool :=
  t.id &&& responseBit != 0

/-- The type of the answer to a request, if the protocol has one. -/
def response? (t : MessageType) : Option MessageType :=
  if t.isResponse then none else ofId? (t.id ||| responseBit)

/-- How a command number is shown: by its name if it has one, else in hexadecimal. -/
def label (n : UInt32) : String :=
  match ofId? n with
  | some t => t.name
  | none => "0x" ++ Text.Numeral.hexPadded 8 n.toNat

end MessageType

end SmppReplay
