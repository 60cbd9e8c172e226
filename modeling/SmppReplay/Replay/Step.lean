import SmppReplay.AutoReply.Responder
import SmppReplay.Replay.State

/-!
# The steps of a run

**Input.**  A moment of a run and what happens next.

**Rules of the script.**

* A message takes the greater of its own number and the least number for the next one, which
  is then one more than the number taken.  Without a connection a message is passed over.
* A message is handed over only if the connection says that it is connected and the message
  has a wire form.  Then its entry is made.  A message that is not sent over an open
  connection ends the run.
* A second connection is refused.  Every new connection answers the default types; settings
  change the types of the open connection and are passed over without one.
* A pause ends when its time is over or its wait was woken; if both are so, either can be
  seen first.  When its time is over is for a clock to say.
* A connection that is open when the run ends is closed.

**Rules of the inbound side.** A frame is taken while a connection is being opened, open or
being closed, and leads to what `AutoReply.arrivalEntry` and `AutoReply.reply?` say.

**Result.**  `step` gives the next moment; what cannot happen at a moment leaves it as it is.
-/

namespace SmppReplay
namespace Replay

open AutoReply (TypeSet)
open Transcript (Entry)
open Transport (ConnectionState Endpoint Result)

/-! ### Entries of the script -/

/-- The connection was opened. -/
def connectedEntry (peer : Endpoint) : Entry where
  kind := .connectOk
  text := "Connected to " ++ peer.render

/-- The connection could not be opened. -/
def connectFailedEntry (peer : Endpoint) (e : Transport.Error) : Entry where
  kind := .connectAttempt
  text := "Connect failed to " ++ peer.render ++ ": " ++ e.message

/-- There is a connection already. -/
def alreadyConnectedEntry (peer : Endpoint) : Entry where
  kind := .connectAttempt
  text := "Connect failed (already connected) to " ++ peer.render

/-- The connection was closed. -/
def disconnectedEntry : Entry where
  kind := .disconnect
  text := "Disconnected"

/-- There is no connection to close. -/
def notConnectedEntry : Entry where
  kind := .disconnect
  text := "Disconnect failed (not connected)"

/-- The connection was closed at the end of a run, with the given result. -/
def finalCloseEntry : Result → Entry
  | .ok => disconnectedEntry
  | .failed e => { kind := .disconnect, text := "Disconnect failed: " ++ e.message }

/-- There is no connection to send a message over. -/
def passedOverEntry (m : Message) : Entry where
  kind := .sendFailed
  text := "PDU not sent (not connected), " ++ m.summary

/-- There is no connection to change the settings of. -/
def settingIgnoredEntry (t : MessageType) (enabled : Bool) : Entry where
  kind := .settingIgnored
  text := s!"Auto-response setting ignored (not connected), type={t.name}, enabled={enabled}"

/-- A pause was cut short. -/
def pauseCutEntry : Entry where
  kind := .pauseInterrupted
  text := "Pause interrupted"

namespace State

/-! ### The script -/

/-- The run ends; an open connection is closed first. -/
def finish (s : State) (o : Outcome) : State :=
  match s.session with
  | some _ => { s with task := .finishing o, session := none }.mark .closeCalled
  | none => { s with task := .finished o }

/-- A message was not sent over the open connection. -/
def abort (s : State) (m : Message) (cause : String) : State :=
  (s.record .script (.sendFailed m cause)).finish (.aborted (Entry.failureText m cause))

/-- The message with the number that it is sent with. -/
def numbered (s : State) (m : Message) : Message :=
  m.withSequence (if m.sequence < s.nextSequence then s.nextSequence else m.sequence)

/-- Takes up an event. -/
def take (s : State) : Event → State
  | .connect peer =>
      match s.session with
      | some _ => s.record .script (alreadyConnectedEntry peer)
      | none =>
          { s with task := .opening peer, enabled := some s.defaults }.mark (.openCalled peer)
  | .disconnect =>
      match s.session with
      | some _ => { s with task := .closing, session := none }.mark .closeCalled
      | none => s.record .script notConnectedEntry
  | .send m =>
      match s.session with
      | some _ =>
          let m := s.numbered m
          { s with task := .asking m, nextSequence := m.sequence + 1 }
      | none => (s.mark (.unsent .script m)).record .script (passedOverEntry m)
  | .pause length =>
      { s with task := .entering length, handle := s.handle.wait }.mark (.pauseStarted length)
  | .setAutoReply t enabled =>
      match s.session with
      | some _ => { s with enabled := s.enabled.map fun set => set.switch t enabled }
      | none => s.record .script (settingIgnoredEntry t enabled)

/-- The script goes on from where it is ready. -/
def proceed (s : State) : State :=
  match s.rest with
  | [] => s.finish .completed
  | e :: rest => ({ s with rest := rest, processed := s.processed + 1 }.mark (.took e)).take e

/-- The opening of a connection returned. -/
def opened (s : State) (peer : Endpoint) (result : Result) : State :=
  let s := { s with task := .ready }.mark (.openReturned peer result)
  match result with
  | .ok => { s with session := some peer }.record .script (connectedEntry peer)
  | .failed e => { s with enabled := none }.record .script (connectFailedEntry peer e)

/-- A message is not handed over. -/
def unsent (s : State) (m : Message) (cause : String) : State :=
  { s with task := .reporting m (some cause) }.mark (.unsent .script m)

/-- The connection told its state, for a message to be sent. -/
def asked (s : State) (m : Message) (state : ConnectionState) : State :=
  let s := s.mark (.stateReturned state)
  match state with
  | .connected =>
      match Pdu.encode m with
      | .ok frame => { s with task := .sending m frame }.mark (.sendCalled .script m frame)
      | .error e => s.unsent m e.message
  | state => s.unsent m ("connection " ++ state.render)

/-- The sending of the script's message returned. -/
def sent (s : State) (m : Message) (frame : List UInt8) (result : Result) : State :=
  { s with task := .reporting m result.cause? }.mark (.sendReturned .script m frame result)

/-- The entry of the script's message is made. -/
def reported (s : State) (m : Message) : Option String → State
  | none => { s with task := .ready }.record .script (.sent m)
  | some cause => s.abort m cause

/-- The closing of the connection returned. -/
def closed (s : State) (task : Task) (e : Entry) (result : Result) : State :=
  ({ s with task := task, enabled := none }.mark (.closeReturned result)).record .script e

/-- The pause is counted, and its time begins. -/
def entered (s : State) (length : Millis) : State :=
  { s with task := .pausing length, handle := s.handle.enter }.mark .pauseEntered

/-- The pause is over. -/
def woken (s : State) (cut : Bool) : State :=
  let s := { s with task := .leaving, handle := s.handle.unwait }.mark (.pauseEnded cut)
  if cut then s.record .script pauseCutEntry else s

/-- The pause is not counted any more. -/
def left (s : State) : State :=
  { s with task := .ready, handle := s.handle.leave }.mark .pauseLeft

/-! ### The inbound side -/

/-- A frame arrived. -/
def deliver (s : State) (enabled : TypeSet) (frame : List UInt8) : State :=
  let s := s.mark (.delivered enabled frame)
  let s := match AutoReply.arrivalEntry frame with
    | some e => s.record .inbound e
    | none => s
  match AutoReply.reply? enabled frame with
  | none => s
  | some m =>
      match Pdu.encode m with
      | .ok bs =>
          { s with replies := ⟨m, bs, none⟩ :: s.replies }.mark (.sendCalled .inbound m bs)
      | .error e => (s.mark (.unsent .inbound m)).record .inbound (.sendFailed m e.message)

/-- The sending of the latest reply returned; `rest` are the others. -/
def replied (s : State) (r : Reply) (rest : List Reply) (result : Result) : State :=
  { s with replies := { r with result := some result } :: rest }.mark
    (.sendReturned .inbound r.message r.frame result)

/-- The entry of the latest reply is made; `rest` are the others. -/
def noted (s : State) (r : Reply) (rest : List Reply) (result : Result) : State :=
  { s with replies := rest }.record .inbound (AutoReply.outcomeEntry r.message result.cause?)

/-! ### Whoever cuts pauses short -/

/-- Somebody who tries to cut a pause short looks whether there is one. -/
def look (s : State) : State :=
  s.mark (.interrupted s.isPausing)

/-- Somebody who has looked wakes the waits. -/
def notify (s : State) : State :=
  { s with handle := s.handle.notify }.mark .notified

end State

/-- The moment after a move. -/
def step (s : State) : Move → State
  | .proceed =>
      match s.task with
      | .ready => s.proceed
      | _ => s
  | .opened result =>
      match s.task with
      | .opening peer => s.opened peer result
      | _ => s
  | .state state =>
      match s.task with
      | .asking m => s.asked m state
      | _ => s
  | .sent result =>
      match s.task with
      | .sending m frame => s.sent m frame result
      | _ => s
  | .reported =>
      match s.task with
      | .reporting m cause => s.reported m cause
      | _ => s
  | .closed result =>
      match s.task with
      | .closing => s.closed .ready disconnectedEntry result
      | .finishing o => s.closed (.finished o) (finalCloseEntry result) result
      | _ => s
  | .entered =>
      match s.task with
      | .entering length => s.entered length
      | _ => s
  | .wake cut =>
      match s.task with
      | .pausing _ => if cut && !s.handle.isWoken then s else s.woken cut
      | _ => s
  | .left =>
      match s.task with
      | .leaving => s.left
      | _ => s
  | .deliver frame =>
      match s.enabled with
      | some set => s.deliver set frame
      | none => s
  | .replied result =>
      match s.replies with
      | r :: rest =>
          match r.result with
          | none => s.replied r rest result
          | some _ => s
      | [] => s
  | .noted =>
      match s.replies with
      | r :: rest =>
          match r.result with
          | some result => s.noted r rest result
          | none => s
      | [] => s
  | .lose =>
      match s.enabled with
      | some _ => (s.mark .lost).record .inbound AutoReply.lostEntry
      | none => s
  | .look => s.look
  | .notify => s.notify

/-- The moment after some moves. -/
def steps (s : State) (moves : List Move) : State :=
  moves.foldl step s

end Replay
end SmppReplay
