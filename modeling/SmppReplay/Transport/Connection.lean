import SmppReplay.Transport.ConnectionState
import SmppReplay.Transport.Framing

/-!
# Connections

A connection is used from two sides.  The reader cuts what arrives into frames and hands
them over one at a time; when the stream ends it says so, unless it was told to stop before
it saw the end.  The owner sends frames and closes the connection; closing tells the reader
to stop, shuts the sending side and waits for the reader.  Whoever takes a frame may send
too.

A `Connection` is a moment of it, and its trace holds what was taken, handed over, sent and
closed so far.  The owner can come in between the taking of a frame and its handing over.

**Rules of the reader.**

* When it can go on, it first looks whether it was told to stop.
* Octets that are no frame, and a failure of the stream, end it with a reason; octets that
  are left when the stream ends are such a failure.

**Result.** `Connection.step` gives the next moment; what cannot happen at a moment leaves
it as it is.
-/

namespace SmppReplay
namespace Transport

/-- How the octets from the peer end. -/
inductive StreamEnd where
  /-- The peer closed its side. -/
  | closed
  /-- Reading failed. -/
  | failed (e : Error)
  deriving DecidableEq, Repr

/-- What the reader is doing. -/
inductive Reader where
  /-- It waits for octets, or for being told to stop. -/
  | waiting
  /-- A frame was taken and is to be handed over. -/
  | holding (bs : List UInt8)
  /-- It was handed over, and its handling has not returned. -/
  | handling
  /-- The end was seen and is to be told, with the reason if it is a failure. -/
  | seeing (reason : Option String)
  /-- The end was told, and that has not returned. -/
  | ending
  | stopped
  deriving DecidableEq, Repr

/-- How far the closing by the owner is. -/
inductive Closing where
  | no
  /-- The reader is told to stop. -/
  | started
  /-- The sending side is shut, with a result. -/
  | shut (result : Result)
  | done (result : Result)
  deriving DecidableEq, Repr

/-- One thing that happened on a connection. -/
inductive ConnectionMark where
  /-- A frame was taken off the stream. -/
  | took (bs : List UInt8)
  /-- It was handed over. -/
  | frame (bs : List UInt8)
  | frameHandled
  /-- The end was seen, with the reason if it is a failure. -/
  | saw (reason : Option String)
  /-- It was told. -/
  | ended (reason : Option String)
  | endHandled
  | sent (bs : List UInt8) (result : Result)
  | closeCalled
  | closeReturned (result : Result)
  deriving DecidableEq, Repr

/-- A moment of a connection. -/
structure Connection where
  framing : Framing
  /-- The octets that arrived and were not read. -/
  arrived : List UInt8 := []
  /-- The end of the octets, behind those that arrived. -/
  streamEnd : Option StreamEnd := none
  /-- The octets that were read and make no whole frame yet. -/
  buffer : List UInt8 := []
  reader : Reader := .waiting
  /-- The reader is told to stop. -/
  stop : Bool := false
  /-- Frames can be sent. -/
  writable : Bool := true
  state : ConnectionState := .connected
  closing : Closing := .no
  trace : List ConnectionMark := []
  deriving DecidableEq, Repr

/-- What can happen next on a connection. -/
inductive ConnectionMove where
  /-- Octets arrive. -/
  | arrive (bs : List UInt8)
  /-- No more octets will arrive. -/
  | finish (e : StreamEnd)
  /-- The reader goes on from where it waits. -/
  | read
  /-- The reader hands over the frame that it took, or tells the end that it saw. -/
  | call
  /-- The handling of a frame returns. -/
  | handled
  /-- The telling of the end returns. -/
  | told
  /-- A frame is sent; the system answers the writing with the result. -/
  | send (bs : List UInt8) (written : Result)
  /-- The owner closes the connection. -/
  | close
  /-- The sending side is shut. -/
  | shut (result : Result)
  /-- The closing returns. -/
  | join
  deriving DecidableEq, Repr

namespace Connection

/-- The connection with one more mark on its trace. -/
def mark (c : Connection) (m : ConnectionMark) : Connection :=
  { c with trace := c.trace ++ [m] }

/-- The reader sees the end. -/
def see (c : Connection) (reason : Option String) : Connection :=
  { c with reader := .seeing reason }.mark (.saw reason)

/-- The reader takes what is at its buffer, if that is a frame or no frame can come of it. -/
def takeFrame? (c : Connection) (cut : Except Error (Option (List UInt8 × List UInt8))) :
    Option Connection :=
  match cut with
  | .ok (some (frame, rest)) =>
      some ({ c with buffer := rest, reader := .holding frame }.mark (.took frame))
  | .ok none => none
  | .error e => some (c.see (some e.message))

/-- The reader goes on at the end of the octets. -/
def readEnd (c : Connection) : StreamEnd → Connection
  | .failed e => c.see (some e.message)
  | .closed => (c.takeFrame? (c.framing.cutLast c.buffer)).getD (c.see none)

/-- The reader goes on. -/
def read (c : Connection) : Connection :=
  if c.stop then { c with reader := .stopped }
  else
    match c.takeFrame? (c.framing.cut c.buffer) with
    | some c => c
    | none =>
        if c.arrived.isEmpty then c.streamEnd.elim c c.readEnd
        else { c with buffer := c.buffer ++ c.arrived, arrived := [] }

/-- What the connection says of itself behind an end with a reason, or without one. -/
def stateBehind (reason : Option String) : ConnectionState :=
  if reason.isSome then .failed else .disconnected

/-- The reader hands over the frame that it took, or tells the end that it saw. -/
def call (c : Connection) : Connection :=
  match c.reader with
  | .holding frame => { c with reader := .handling }.mark (.frame frame)
  | .seeing reason =>
      { c with reader := .ending, state := stateBehind reason }.mark (.ended reason)
  | _ => c

/-- The result of sending a frame, where the system answers the writing with a result. -/
def sendResult (c : Connection) (bs : List UInt8) (written : Result) : Result :=
  if c.writable then
    match c.framing.check bs with
    | .ok () => written
    | .error e => .failed e
  else .failed .disconnected

/-- The moment after a move. -/
def step (c : Connection) : ConnectionMove → Connection
  | .arrive bs => if c.streamEnd.isSome then c else { c with arrived := c.arrived ++ bs }
  | .finish e => if c.streamEnd.isSome then c else { c with streamEnd := some e }
  | .read => if c.reader = .waiting then c.read else c
  | .call => c.call
  | .handled =>
      if c.reader = .handling then { c with reader := .waiting }.mark .frameHandled else c
  | .told => if c.reader = .ending then { c with reader := .stopped }.mark .endHandled else c
  | .send bs written => c.mark (.sent bs (c.sendResult bs written))
  | .close =>
      if c.closing = .no then
        { c with stop := true, closing := .started }.mark .closeCalled
      else c
  | .shut result =>
      if c.closing = .started then { c with writable := false, closing := .shut result }
      else c
  | .join =>
      match c.closing with
      | .shut result =>
          if c.reader = .stopped then
            { c with state := .disconnected, closing := .done result }.mark
              (.closeReturned result)
          else c
      | _ => c

/-- The moment after some moves. -/
def steps (c : Connection) (moves : List ConnectionMove) : Connection :=
  moves.foldl step c

/-- A connection that was just opened. -/
def opened (framing : Framing) : Connection where
  framing := framing

end Connection
end Transport
end SmppReplay
