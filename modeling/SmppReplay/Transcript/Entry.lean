import SmppReplay.Pdu.Message

/-!
# Transcript entries

An entry says what happened, in a line of text, and may carry the message that it is about.

* `Entry.render` is the text of an entry in a transcript: the time of day and the line, then
  one indented line for each field of the message.
* `Entry.sent`, `Entry.received` and `Entry.sendFailed` are the entries about messages.
-/

namespace SmppReplay
namespace Transcript

/-- What an entry is about. -/
inductive EntryKind where
  | connectAttempt
  | connectOk
  | disconnect
  | sent
  | received
  | sendFailed
  | connectionLost
  | pauseInterrupted
  | settingIgnored
  deriving DecidableEq, Repr

/-- One thing that happened. -/
structure Entry where
  kind : EntryKind
  text : String
  message : Option Message := none
  deriving DecidableEq, Repr

/-- A time of day. -/
structure ClockTime where
  hour : Nat
  minute : Nat
  second : Nat
  nanosecond : Nat
  deriving DecidableEq, Repr

/-- Hours, minutes, seconds and milliseconds, the rest cut off.  A nanosecond beyond the
second's end belongs to a leap second. -/
def ClockTime.render (t : ClockTime) : String :=
  Text.Numeral.decPadded 2 t.hour ++ ":" ++ Text.Numeral.decPadded 2 t.minute ++ ":" ++
    Text.Numeral.decPadded 2 (t.second + t.nanosecond / 1000000000) ++ "." ++
    Text.Numeral.decPadded 3 (t.nanosecond % 1000000000 / 1000000)

namespace Entry

/-- The line of one field of a message. -/
def fieldLine (field : String × String) : String :=
  "\n    " ++ field.1 ++ "=" ++ field.2

/-- The entry as it stands in a transcript, without the line feed at its end. -/
def render (t : ClockTime) (e : Entry) : String :=
  let fields := match e.message with
    | some m => m.fieldLines
    | none => []
  t.render ++ " " ++ e.text ++ String.join (fields.map fieldLine)

/-- The message was sent. -/
def sent (m : Message) : Entry where
  kind := .sent
  text := "Sent PDU, " ++ m.summary
  message := some m

/-- The message was received. -/
def received (m : Message) : Entry where
  kind := .received
  text := "Received PDU, " ++ m.summary
  message := some m

/-- The words for a message that was not sent. -/
def failureText (m : Message) (cause : String) : String :=
  s!"Send failed, seq={m.sequence.toNat}, type={m.type.name}: " ++ cause

/-- The message was not sent. -/
def sendFailed (m : Message) (cause : String) : Entry where
  kind := .sendFailed
  text := failureText m cause

end Entry

end Transcript
end SmppReplay
