import SmppReplay.Text.Quoted
import SmppReplay.Transcript.Entry

/-!
# Transcript logs

A log takes entries and passes each of them to its outputs: a file, the console, a view that
watches the log, and a history in memory.  Each output can be absent, and can go away on its
own.

**Rules.**

* The file takes the rendering of an entry and a line feed.  A write that fails writes
  nothing and ends the output to the file; the rendering then goes to the error stream.
* A view takes the entries from its attachment on, until another view takes its place or it is
  dropped.  A dropped view is let go at the next entry.
* The history takes the entries from the moment on at which it is switched on.
* The number of entries counts every entry, whatever the outputs do.

The parameter `writes` of `Log.append` tells whether a write to the file succeeds.
-/

namespace SmppReplay
namespace Transcript

/-- An entry with the time at which it was made. -/
structure Stamped where
  time : ClockTime
  entry : Entry
  deriving DecidableEq, Repr

/-- The text of an entry, without the line feed at its end. -/
def Stamped.render (e : Stamped) : String :=
  e.entry.render e.time

/-- A view with the entries that it has received. -/
structure View where
  received : List Stamped := []
  dropped : Bool := false
  deriving DecidableEq, Repr

/-- A log and what its outputs hold. -/
structure Log where
  /-- The path of the file, while it is open. -/
  file : Option String := none
  /-- The lines in the file. -/
  written : List String := []
  /-- Entries go to the console. -/
  echo : Bool := false
  /-- The lines on the console. -/
  console : List String := []
  /-- The lines on the error stream. -/
  diverted : List String := []
  /-- All views that were ever attached, in order. -/
  views : List View := []
  /-- The place of the attached view among the views. -/
  attached : Option Nat := none
  /-- The entries kept in memory, if entries are kept. -/
  history : Option (List Stamped) := none
  /-- The number of entries so far. -/
  appended : Nat := 0
  deriving DecidableEq, Repr

namespace Log

/-- A log that keeps its entries in memory and has no other output. -/
def inMemory : Log :=
  { history := some [] }

/-- A log on a new or emptied file. -/
def onFile (path : String) : Log :=
  { file := some path }

/-- Switches the history on or off; a history that is on stays as it is. -/
def keepHistory (log : Log) (keep : Bool) : Log :=
  if keep then { log with history := some (log.history.getD []) }
  else { log with history := none }

/-- Switches the console on or off. -/
def echoing (log : Log) (echo : Bool) : Log :=
  { log with echo := echo }

/-- Attaches a new view in place of the attached one. -/
def attachView (log : Log) : Log :=
  { log with views := log.views ++ [{}], attached := some log.views.length }

/-- The view at a place goes away. -/
def dropView (log : Log) (n : Nat) : Log :=
  { log with views := log.views.modify n fun v => { v with dropped := true } }

/-- Passes an entry to the file. -/
def toFile (log : Log) (writes : Bool) (e : Stamped) : Log :=
  match log.file with
  | none => log
  | some _ =>
      if writes then { log with written := log.written ++ [e.render] }
      else { log with file := none, diverted := log.diverted ++ [e.render] }

/-- Passes an entry to the console. -/
def toConsole (log : Log) (e : Stamped) : Log :=
  if log.echo then { log with console := log.console ++ [e.render] } else log

/-- Passes an entry to the attached view. -/
def toView (log : Log) (e : Stamped) : Log :=
  match log.attached with
  | none => log
  | some n =>
      match log.views[n]? with
      | none => { log with attached := none }
      | some v =>
          if v.dropped then { log with attached := none }
          else
            { log with
              views := log.views.modify n fun v => { v with received := v.received ++ [e] } }

/-- Passes an entry to the history. -/
def toHistory (log : Log) (e : Stamped) : Log :=
  { log with history := log.history.map (· ++ [e]) }

/-- Takes one entry. -/
def append (log : Log) (writes : Bool) (e : Stamped) : Log :=
  let log := (((log.toFile writes e).toConsole e).toView e).toHistory e
  { log with appended := log.appended + 1 }

/-- Ends the output to the file. -/
def close (log : Log) : Log :=
  { log with file := none }

/-- The entries in memory. -/
def entries (log : Log) : List Stamped :=
  log.history.getD []

/-- The number of entries so far. -/
def size (log : Log) : Nat :=
  log.appended

/-- The log is without entries so far. -/
def isEmpty (log : Log) : Bool :=
  log.size == 0

/-- The text of the file. -/
def transcript (log : Log) : String :=
  String.join (log.written.map (· ++ "\n"))

/-- A value that may be absent, on one line. -/
def showOption (value : Option String) : String :=
  match value with
  | some s => "Some(" ++ s ++ ")"
  | none => "None"

/-- The state of a log on one line. -/
def describe (log : Log) : String :=
  "EventLog \x7b file: " ++ showOption (log.file.map Text.quoted) ++
    ", echo_console: " ++ (if log.echo then "true" else "false") ++
    ", appended: " ++ toString log.appended ++
    ", history: " ++ showOption (log.history.map fun h => toString h.length) ++ " \x7d"

end Log

end Transcript
end SmppReplay
