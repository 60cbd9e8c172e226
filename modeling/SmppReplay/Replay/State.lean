import SmppReplay.AutoReply.TypeSet
import SmppReplay.Batch.Event
import SmppReplay.Replay.Outcome
import SmppReplay.Replay.PauseHandle
import SmppReplay.Transcript.Entry
import SmppReplay.Transport.ConnectionState
import SmppReplay.Transport.Error

/-!
# Runs

A run has two sides.  The script takes up the events of a batch one after the other and
waits where an event asks something of the connection or is a pause.  The inbound side takes
frames from the peer at any time, also while the script waits, and answers some of them.

A `State` is a moment of a run, and its trace holds everything that happened so far: what
was called and returned on connections, what was delivered, how pauses went on and who tried
to cut them short, and what was put into the transcript.

The sides run at the same time, and so does whoever tries to cut a pause short.  So what one
of them does is taken apart where another one can come in between: the sending of a message
returns before its entry is made, a pause waits before it is counted, and a call that cuts
pauses short looks before it notifies.
-/

namespace SmppReplay
namespace Replay

open AutoReply (TypeSet)
open Transcript (Entry)
open Transport (ConnectionState Endpoint Result)

/-- A side of a run. -/
inductive Side where
  | script
  | inbound
  deriving DecidableEq, Repr

/-- One thing that happened in a run. -/
inductive Mark where
  /-- The script took up an event. -/
  | took (event : Event)
  | openCalled (peer : Endpoint)
  | openReturned (peer : Endpoint) (result : Result)
  | stateReturned (state : ConnectionState)
  /-- A message was handed over for sending. -/
  | sendCalled (side : Side) (message : Message) (frame : List UInt8)
  | sendReturned (side : Side) (message : Message) (frame : List UInt8) (result : Result)
  /-- A message was not handed over: there is no connection, or no wire form. -/
  | unsent (side : Side) (message : Message)
  | closeCalled
  | closeReturned (result : Result)
  /-- A frame arrived while the set of answered types was the given one. -/
  | delivered (enabled : TypeSet) (frame : List UInt8)
  /-- The peer closed the connection, or it broke. -/
  | lost
  /-- A pause began to wait. -/
  | pauseStarted (length : Millis)
  /-- It was counted, and its time began. -/
  | pauseEntered
  /-- It is over; `cut` tells that it was cut short. -/
  | pauseEnded (cut : Bool)
  /-- It is not counted any more. -/
  | pauseLeft
  /-- Somebody tries to cut a pause short, and will be told whether there is one as the
  counter said. -/
  | interrupted (pausing : Bool)
  /-- Somebody woke the waits. -/
  | notified
  /-- An entry was put into the transcript. -/
  | logged (side : Side) (entry : Entry)
  deriving DecidableEq

/-- What the script is doing. -/
inductive Task where
  /-- Nothing: the next event can be taken up. -/
  | ready
  /-- It waits for a connection to be opened. -/
  | opening (peer : Endpoint)
  /-- It waits for the state of the connection, to send a message. -/
  | asking (message : Message)
  /-- It waits for a message to be sent. -/
  | sending (message : Message) (frame : List UInt8)
  /-- It is about to make the entry of a message, which was sent or, for a cause, was not. -/
  | reporting (message : Message) (cause : Option String)
  /-- It waits for the connection to be closed, as the script asks. -/
  | closing
  /-- A pause has begun to wait and is not counted yet. -/
  | entering (length : Millis)
  /-- It pauses. -/
  | pausing (length : Millis)
  /-- A pause is over and still counted. -/
  | leaving
  /-- It waits for the connection to be closed at the end of the run. -/
  | finishing (outcome : Outcome)
  | finished (outcome : Outcome)
  deriving DecidableEq

/-- A reply that the inbound side handed over for sending. -/
structure Reply where
  message : Message
  frame : List UInt8
  /-- The result of the sending, if it has returned. -/
  result : Option Result := none
  deriving DecidableEq

/-- A moment of a run. -/
structure State where
  /-- The types that are answered on a new connection. -/
  defaults : TypeSet
  /-- The events that are not taken up yet. -/
  rest : Batch
  /-- The number of events that were taken up. -/
  processed : Nat := 0
  task : Task := .ready
  /-- The peer of the open connection. -/
  session : Option Endpoint := none
  /-- The least number for the next message. -/
  nextSequence : UInt32 := 1
  /-- The types that the inbound side answers, while there is one. -/
  enabled : Option TypeSet := none
  /-- The replies that have no entry yet, the latest first. -/
  replies : List Reply := []
  /-- The handle by which pauses are cut short. -/
  handle : PauseHandle := {}
  trace : List Mark := []
  deriving DecidableEq

/-- The start of a run. -/
def State.start (defaults : TypeSet) (batch : Batch) : State where
  defaults := defaults
  rest := batch

/-- What can happen next. -/
inductive Move where
  /-- The script takes up the next event, or ends the run after the last. -/
  | proceed
  /-- The opening of a connection returns. -/
  | opened (result : Result)
  /-- The connection tells its state. -/
  | state (state : ConnectionState)
  /-- The sending of the script's message returns. -/
  | sent (result : Result)
  /-- The entry of the script's message is made. -/
  | reported
  /-- The closing of the connection returns. -/
  | closed (result : Result)
  /-- The pause is counted. -/
  | entered
  /-- The pause ends: its wait was woken, or its time is over. -/
  | wake (cut : Bool)
  /-- The pause is not counted any more. -/
  | left
  /-- A frame arrives. -/
  | deliver (frame : List UInt8)
  /-- The sending of the latest reply returns. -/
  | replied (result : Result)
  /-- The entry of the latest reply is made. -/
  | noted
  /-- The peer closes the connection, or it breaks. -/
  | lose
  /-- Somebody who tries to cut a pause short looks whether there is one. -/
  | look
  /-- Somebody who has looked wakes the waits. -/
  | notify
  deriving DecidableEq

namespace State

/-- The state with one more mark on its trace. -/
def mark (s : State) (m : Mark) : State :=
  { s with trace := s.trace ++ [m] }

/-- The state with one more entry in the transcript. -/
def record (s : State) (side : Side) (e : Entry) : State :=
  s.mark (.logged side e)

/-- The entries of the transcript. -/
def log (s : State) : List Entry :=
  s.trace.filterMap fun m => match m with
    | .logged _ e => some e
    | _ => none

/-- A pause is in progress, as the handle tells. -/
def isPausing (s : State) : Bool :=
  s.handle.isPausing

/-- How the run ended, if it is over. -/
def outcome? (s : State) : Option Outcome :=
  match s.task with
  | .finished o => some o
  | _ => none

/-- The report of a run that is over. -/
def report? (s : State) (milliseconds : UInt64) : Option Report :=
  s.outcome?.map fun o => {
    events := UInt64.ofNat s.processed
    nextSequence := s.nextSequence
    milliseconds := milliseconds
    outcome := o }

end State

end Replay
end SmppReplay
