import SmppReplay.Command.Performance
import SmppReplay.Replay.Step
import SmppReplay.Text.SystemError
import SmppReplay.Transport.Connection
import Std.Internal.UV.DNS
import Std.Internal.UV.TCP
import Std.Sync.Mutex
import Std.Time

/-!
# The command

Carries out what `Command.perform` describes, with files, the clock and connections of the
system.  The script runs in this thread; each connection has a task that reads from it.
What happens next is always decided by `Replay.step` and `Transport.Connection.step`.
-/

namespace SmppReplay
namespace Command

open Transport (Connection ConnectionMove Endpoint Result)

/-! ### The system -/

/-- The number of a failure as the runtime gives it. -/
def rawNumber? : IO.Error → Option UInt32
  | .alreadyExists _ n _ => some n
  | .otherError n _ => some n
  | .resourceBusy n _ => some n
  | .resourceVanished n _ => some n
  | .unsupportedOperation n _ => some n
  | .hardwareFault n _ => some n
  | .unsatisfiedConstraints n _ => some n
  | .illegalOperation n _ => some n
  | .protocolError n _ => some n
  | .timeExpired n _ => some n
  | .interrupted _ n _ => some n
  | .noFileOrDirectory _ n _ => some n
  | .invalidArgument _ n _ => some n
  | .permissionDenied _ n _ => some n
  | .resourceExhausted _ n _ => some n
  | .inappropriateType _ n _ => some n
  | .noSuchThing _ n _ => some n
  | .unexpectedEof => none
  | .userError _ => none

/-- The system's number of a failure, which may be given with a minus sign. -/
def errorNumber? (e : IO.Error) : Option Nat :=
  (rawNumber? e).map fun n => n.toInt32.toInt.natAbs

/-- The text of a failure. -/
def errorText (e : IO.Error) : String :=
  ((errorNumber? e).bind Text.systemError?).getD (toString e)

/-- The octets of a file. -/
def octetsOf (bytes : ByteArray) : List UInt8 := bytes.toList

/-- What the settings depend on. -/
def surroundings (given : Option String) : IO Settings.Surroundings := do
  let values ← Settings.variableNames.mapM fun name => return (name, ← IO.getEnv name)
  let home := (← IO.getEnv "HOME").filter (· != "")
  let environment (name : String) : Option String := (values.lookup name).join
  let asked := given.toList ++
    Settings.candidates ⟨environment, fun _ => false, fun _ => none, home⟩
  let present ← asked.filterM fun (path : String) => do
    try
      discard (IO.FS.realPath path)
      return true
    catch _ => return false
  let contents ← present.mapM fun (path : String) => do
    try
      return (path, some (octetsOf (← IO.FS.readBinFile path)))
    catch _ => return (path, none)
  return {
    environment
    isPresent := fun path => present.contains path
    octets? := fun path => (contents.lookup path).join
    home? := home }

/-- The script file. -/
def scriptSource (path : String) : IO Batch.Source := do
  try
    return .octets (octetsOf (← IO.FS.readBinFile path))
  catch e =>
    if errorNumber? e = some 2 then return .missing else return .unreadable (errorText e)

/-- The time of day. -/
def clockTime : IO Transcript.ClockTime := do
  let now ← Std.Time.PlainTime.now
  return ⟨now.hour.val.toNat, now.minute.val.toNat, now.second.val.toNat,
    now.nanosecond.val.toNat⟩

/-! ### The transcript -/

/-- A run that is going on. -/
structure Live where
  run : Replay.State
  log : Transcript.Log
  /-- The file of the transcript. -/
  file : IO.FS.Handle

/-- The result of an output. -/
def succeeds (act : IO Unit) : IO Bool := do
  try
    act
    return true
  catch _ => return false

/-- Passes an entry to the outputs of the log. -/
def Live.append (live : Live) (e : Transcript.Stamped) : IO Live := do
  let writes ← match live.log.file with
    | none => pure true
    | some _ => succeeds do
        live.file.putStr (e.render ++ "\n")
        live.file.flush
  let log := live.log.append writes e
  for line in log.diverted do (← IO.getStderr).putStrLn line
  for line in log.console do (← IO.getStdout).putStrLn line
  return { live with log := { log with written := [], diverted := [], console := [] } }

/-- The run makes a move; new entries go to the outputs. -/
def Live.move (live : Live) (m : Replay.Move) : IO Live := do
  let run := Replay.step live.run m
  let fresh := run.trace.drop live.run.trace.length
  let mut live := { live with run }
  for mark in fresh do
    if let .logged _ e := mark then
      live ← live.append ⟨← clockTime, e⟩
  return live

/-- The run that all threads share. -/
abbrev Shared := Std.Mutex Live

/-- The shared run makes a move; gives the run after it. -/
def Shared.move (shared : Shared) (m : Replay.Move) : IO Replay.State :=
  shared.atomically do
    let live ← (← get).move m
    set live
    return live.run

/-! ### Connections -/

/-- A connection of the system. -/
structure Wire where
  socket : Std.Internal.UV.TCP.Socket
  connection : Std.Mutex Connection
  /-- Held while a frame is written. -/
  writing : Std.Mutex Unit

/-- The result of an operation of the system. -/
def awaited {α : Type} (start : IO (IO.Promise (Except IO.Error α))) :
    IO (Except IO.Error α) := do
  try
    match ← IO.wait (← start).result? with
    | some r => return r
    | none => return .error (.userError "cancelled")
  catch e => return .error e

/-- The result without its value. -/
def resultOf (r : Except IO.Error Unit) : Result :=
  match r with
  | .ok () => .ok
  | .error e => .failed (.io (errorText e))

/-- The connection makes a move; gives the connection after it. -/
def Wire.move (w : Wire) (m : ConnectionMove) : IO Connection :=
  w.connection.atomically do
    let c := (← get).step m
    set c
    return c

/-- Sends a frame. -/
def Wire.send (w : Wire) (frame : List UInt8) : IO Result :=
  w.writing.atomically (m := IO) do
    let c ← w.connection.atomically (m := IO) get
    let written ← match c.sendResult frame .ok with
      | .ok => pure (resultOf (← awaited (w.socket.send #[ByteArray.mk frame.toArray])))
      | failed => pure failed
    discard (w.move (.send frame written))
    return c.sendResult frame written

/-- A frame arrived: the run takes it, and the reply that it leads to is sent. -/
def Wire.takeFrame (w : Wire) (shared : Shared) (frame : List UInt8) : IO Unit := do
  let before ← shared.atomically (m := IO) do return (← get).run.replies.length
  let run ← shared.move (.deliver frame)
  if before < run.replies.length then
    if let some r := run.replies.head? then
      discard (shared.move (.replied (← w.send r.frame)))
      discard (shared.move .noted)

/-- The move that the system makes the reader's stream do: more octets, or the end. -/
def Wire.receive (w : Wire) : IO (Option ConnectionMove) := do
  match ← awaited (w.socket.recv? 65536) with
  | .ok (some bytes) => return some (.arrive bytes.toList)
  | .ok none => return some (.finish .closed)
  | .error e =>
      match errorNumber? e with
      | some _ => return some (.finish (.failed (.io (errorText e))))
      | none => return none

/-- Reads from a connection until its reader stops. -/
partial def Wire.readAll (w : Wire) (shared : Shared) : IO Unit := do
  let before ← w.connection.atomically (m := IO) get
  let c ← w.move .read
  match c.reader with
  | .holding frame =>
      discard (w.move .call)
      w.takeFrame shared frame
      discard (w.move .handled)
      w.readAll shared
  | .seeing _ =>
      discard (w.move .call)
      discard (shared.move .lose)
      discard (w.move .told)
  | .handling | .ending | .stopped => return
  | .waiting =>
      if c.buffer.length = before.buffer.length then
        if let some m ← w.receive then discard (w.move m)
      w.readAll shared

/-- The addresses of a host. -/
def addressesOf (host : String) : IO (Except IO.Error (Array Std.Net.IPAddr)) := do
  match Std.Net.IPv4Addr.ofString host, Std.Net.IPv6Addr.ofString host with
  | some a, _ => return .ok #[.v4 a]
  | none, some a => return .ok #[.v6 a]
  | none, none => awaited (Std.Internal.UV.DNS.getAddrInfo host "" 0)

/-- Connects to the first address that answers; gives the last failure if none does. -/
def connect (peer : Endpoint) : IO (Except String Std.Internal.UV.TCP.Socket) := do
  match ← addressesOf peer.host with
  | .error e => return .error (errorText e)
  | .ok addresses =>
      let mut failure := "could not resolve to any addresses"
      for a in addresses do
        let address : Std.Net.SocketAddress := match a with
          | .v4 addr => .v4 { addr, port := peer.port }
          | .v6 addr => .v6 { addr, port := peer.port }
        let socket ← Std.Internal.UV.TCP.Socket.new
        match ← awaited (socket.connect address) with
        | .ok () => return .ok socket
        | .error e => failure := errorText e
      return .error failure

/-- A wire with the task that reads from it. -/
structure Line where
  wire : Wire
  reader : Task (Except IO.Error Unit)

/-- Opens a connection and starts to read from it. -/
def openLine (settings : ConnectionSettings) (peer : Endpoint) (shared : Shared) :
    IO (Except Transport.Error Line) := do
  match ← connect peer with
  | .error text => return .error (.connectionFailed text)
  | .ok socket =>
      if settings.noDelay then socket.noDelay
      let wire : Wire := {
        socket
        connection := ← Std.Mutex.new (Connection.opened settings.framing)
        writing := ← Std.Mutex.new () }
      return .ok { wire, reader := ← IO.asTask (wire.readAll shared) .dedicated }

/-- Waits until nothing more is read from a connection, whose reader is told to stop. -/
partial def Line.awaitReader (l : Line) : IO Unit := do
  if !(← IO.hasFinished l.reader) then
    l.wire.socket.cancelRecv
    IO.sleep 1
    l.awaitReader

/-- Closes a connection. -/
def Line.close (l : Line) : IO Result := do
  discard (l.wire.move .close)
  let result ← l.wire.writing.atomically (m := IO) do
    let result := resultOf (← awaited l.wire.socket.shutdown)
    discard (l.wire.move (.shut result))
    return result
  l.awaitReader
  discard (l.wire.move .join)
  return result

/-! ### The script -/

/-- Waits for some milliseconds. -/
partial def sleep (milliseconds : Nat) : IO Unit := do
  let part := min milliseconds 1000000
  IO.sleep (UInt32.ofNat part)
  if part < milliseconds then sleep (milliseconds - part)

/-- Runs the script to its end. -/
partial def runScript (settings : ConnectionSettings) (shared : Shared) (line : Option Line) :
    IO Unit := do
  let run ← shared.atomically (m := IO) do return (← get).run
  match run.task with
  | .finished _ => return
  | .ready =>
      discard (shared.move .proceed)
      runScript settings shared line
  | .opening peer =>
      match ← openLine settings peer shared with
      | .ok l =>
          discard (shared.move (.opened .ok))
          runScript settings shared (some l)
      | .error e =>
          discard (shared.move (.opened (.failed e)))
          runScript settings shared none
  | .asking _ =>
      let state ← match line with
        | some l => l.wire.connection.atomically (m := IO) do return (← get).state
        | none => pure .disconnected
      discard (shared.move (.state state))
      runScript settings shared line
  | .sending _ frame =>
      let result ← match line with
        | some l => l.wire.send frame
        | none => pure (.failed .disconnected)
      discard (shared.move (.sent result))
      runScript settings shared line
  | .reporting _ _ =>
      discard (shared.move .reported)
      runScript settings shared line
  | .closing | .finishing _ =>
      let result ← match line with
        | some l => l.close
        | none => pure .ok
      discard (shared.move (.closed result))
      runScript settings shared none
  | .entering _ =>
      discard (shared.move .entered)
      runScript settings shared line
  | .pausing length =>
      -- Signals are not handled, so nobody cuts the pause short.
      sleep length.val.toNat
      discard (shared.move (.wake false))
      runScript settings shared line
  | .leaving =>
      discard (shared.move .left)
      runScript settings shared line

/-- Creates the transcript, runs the script and shows how it went; gives the exit status. -/
def Plan.execute (p : Plan) : IO UInt32 := do
  let file ← try
      pure (some (← IO.FS.Handle.mk p.transcript .write))
    catch _ => pure none
  match p.setup file.isSome, file with
  | .ok setup, some file =>
      let types := AutoReply.TypeSet.ofList setup.autoTypes
      let shared : Shared ← Std.Mutex.new {
        run := .start types p.batch
        log := p.log
        file }
      let start ← IO.monoMsNow
      runScript setup.connection shared none
      let stop ← IO.monoMsNow
      let run ← shared.atomically (m := IO) do return (← get).run
      match run.report? (UInt64.ofNat (stop - start)) with
      | some report =>
          (← IO.getStdout).putStr (summary report p.transcript)
          return statusOf report
      | none => return refusedStatus
  | .error e, _ =>
      (← IO.getStderr).putStr e.message
      return refusedStatus
  | .ok _, none => return refusedStatus

/-- How the command is used. -/
def usage : String :=
  "Usage: smpp-batch [OPTIONS] <SCRIPT> <TRANSCRIPT>\n\n" ++
    "Options:\n" ++
    "  -c, --config <CONFIG>        path of a settings file\n" ++
    "  -l, --log-level <LOG_LEVEL>  level of messages [default: info]\n" ++
    "  -h, --help                   show this help\n" ++
    "  -V, --version                show the version\n"

/-- Carries out the command; gives the exit status. -/
def execute (args : List String) : IO UInt32 := do
  match Request.ofArguments args with
  | .help =>
      (← IO.getStdout).putStr usage
      return 0
  | .version =>
      (← IO.getStdout).putStr "smpp-batch 0.1.0\n"
      return 0
  | .misuse =>
      (← IO.getStderr).putStr usage
      return misuseStatus
  | .run a =>
      let source ← scriptSource a.script
      let host : Host :=
        { surroundings := ← surroundings a.config, script := fun _ => source }
      match prepare host a with
      | .error e =>
          (← IO.getStderr).putStr e.message
          return refusedStatus
      | .ok p => p.execute

end Command
end SmppReplay

/-- Carries out the command with its arguments. -/
def main (args : List String) : IO UInt32 :=
  SmppReplay.Command.execute args
