import SmppReplay.Rehearsal.Peer
import SmppReplay.Replay.Step

/-!
# Rehearsals

**Input.**  A batch and a scripted peer.

**Algorithm.** The run is stepped from its start; whatever it waits for, the peer answers.
Time passes only in pauses.  When a pause starts, the queued frames are delivered in order;
then the timed actions that fall into the pause happen in order, and after each of them the
frames queued meanwhile are delivered.  A pause that was cut short ends at the time of the
action that cut it.  Frames of a connection that is no longer live are dropped.

**Result.**  The run at its end, the frames that the peer took, and the calls that it saw.
-/

namespace SmppReplay
namespace Rehearsal

open Replay (Move State)
open Transport (ConnectionState Result)

/-- The most queued frames that one pause delivers at a time. -/
def drainLimit : Nat := 100000

/-- A moment of a rehearsal. -/
structure World where
  run : State
  /-- What the peer has not done yet. -/
  peer : Peer
  /-- The number of the current connection. -/
  connection : Nat := 0
  /-- The connection takes frames. -/
  live : Bool := false
  /-- The state that the connection reports. -/
  state : ConnectionState := .disconnected
  /-- Frames from the peer that wait for a pause, with the numbers of their connections. -/
  queue : List (Nat × List UInt8) := []
  /-- Milliseconds since the start. -/
  clock : Nat := 0
  /-- The frames that the peer took. -/
  taken : List (List UInt8) := []

namespace World

/-- The run makes a move. -/
def move (w : World) (m : Move) : World :=
  { w with run := Replay.step w.run m }

/-- The frames with which the peer answers a frame. -/
def answersTo (w : World) (frame : List UInt8) : List (List UInt8) :=
  match Pdu.Header.parse frame with
  | .error _ => []
  | .ok h =>
      match MessageType.ofId? h.commandId with
      | none => []
      | some t => (w.peer.replies.lookup t).getD []

/-- The connection is lost. -/
def lose (w : World) : World :=
  { w with live := false, state := .disconnected }.move .lose

/-- The peer takes a frame and queues what it sends back. -/
def accept (w : World) (a : SendAction) (frame : List UInt8) : World :=
  { w with
    taken := w.taken ++ [frame]
    queue := w.queue ++ (a.queued ++ w.answersTo frame).map fun f => (w.connection, f) }

/-- Somebody tries to cut a pause short. -/
def interrupt (w : World) : World :=
  (w.move .look).move .notify

/-- What an action does after its frames were delivered. -/
def afterInline (w : World) (a : SendAction) : World :=
  let w := if a.interrupts then w.interrupt else w
  let w := match a.state with
    | some s => { w with state := s }
    | none => w
  if a.loses then w.lose else w

mutual

/-- Hands a frame over; `depth` bounds how deep the sending of replies nests. -/
def send (depth : Nat) (w : World) (frame : List UInt8) : Result × World :=
  match depth with
  | 0 => (.failed .disconnected, w)
  | depth + 1 =>
      if w.live then
        let a := w.peer.sends.head?.getD {}
        let w := { w with peer := { w.peer with sends := w.peer.sends.drop 1 } }
        match a.failure with
        | some e => (.failed e, w)
        | none =>
            let w := a.inline.foldl (deliver depth) (w.accept a frame)
            (.ok, w.afterInline a)
      else (.failed .disconnected, w)

/-- Delivers a frame, and sends the reply that it leads to. -/
def deliver (depth : Nat) (w : World) (frame : List UInt8) : World :=
  let before := w.run.replies.length
  let w := w.move (.deliver frame)
  match w.run.replies with
  | r :: _ =>
      if before < w.run.replies.length then
        let (result, w) := send depth w r.frame
        (w.move (.replied result)).move .noted
      else w
  | [] => w

end

/-- Every further level of nesting takes an action from the list, and without one nothing
nests. -/
def depth (w : World) : Nat :=
  w.peer.sends.length + 2

/-- Delivers the queued frames, also those that are queued meanwhile. -/
def drain : Nat → World → World
  | 0, w => w
  | fuel + 1, w =>
      match w.queue with
      | [] => w
      | (connection, frame) :: rest =>
          let w := { w with queue := rest }
          drain fuel
            (if w.live && connection == w.connection then w.deliver w.depth frame else w)

/-- A timed action happens. -/
def act (w : World) (a : TimedAction) : World :=
  let w := { w with clock := a.time }
  let w := a.deliver.foldl (fun w f => if w.live then w.deliver w.depth f else w) w
  let w := if a.loses && w.live then w.lose else w
  let w := if a.interrupts then w.interrupt else w
  w.drain drainLimit

/-- The pause that is in progress was cut short. -/
def isCut (w : World) : Bool :=
  w.run.handle.isWoken

/-- The timed actions before a time happen, until one cuts the pause short. -/
def actUntil (stop : Nat) : List TimedAction → World → World
  | [], w => w
  | a :: rest, w =>
      if w.isCut || stop ≤ a.time then w
      else
        actUntil stop rest ({ w with peer := { w.peer with timeline := rest } }.act a)

/-- A pause of some milliseconds passes. -/
def pause (w : World) (length : Nat) : World :=
  let stop := w.clock + length
  let w := w.drain drainLimit
  let w := w.actUntil stop w.peer.timeline
  if w.isCut then w.move (.wake true) else { w with clock := stop }.move (.wake false)

/-- The result of the next closing. -/
def close (w : World) : World :=
  let result := w.peer.closes.head?.getD .ok
  { w with
    peer := { w.peer with closes := w.peer.closes.drop 1 }
    live := false
    state := .disconnected }.move (.closed result)

/-- The result of the next opening. -/
def openNext (w : World) : World :=
  let result := w.peer.opens.head?.getD .ok
  let w := { w with peer := { w.peer with opens := w.peer.opens.drop 1 } }
  let w := match result with
    | .ok => { w with connection := w.connection + 1, live := true, state := .connected }
    | .failed _ => w
  w.move (.opened result)

/-- The peer answers what the run waits for. -/
def advance (w : World) : World :=
  match w.run.task with
  | .ready => w.move .proceed
  | .opening _ => w.openNext
  | .asking _ => w.move (.state w.state)
  | .sending _ frame =>
      let (result, w) := w.send w.depth frame
      w.move (.sent result)
  | .reporting _ _ => w.move .reported
  | .closing | .finishing _ => w.close
  | .entering _ => w.move .entered
  | .pausing length => w.pause length.val.toNat
  | .leaving => w.move .left
  | .finished _ => w

/-- Each event takes at most four answers, and the end of the run two more. -/
def runToEnd (w : World) : World :=
  Nat.repeat advance (4 * w.run.rest.length + 2) w

end World

/-- The rehearsal of a batch against a peer. -/
def rehearse (defaults : AutoReply.TypeSet) (batch : Batch) (peer : Peer) : World :=
  World.runToEnd { run := .start defaults batch, peer := peer }

end Rehearsal
end SmppReplay
