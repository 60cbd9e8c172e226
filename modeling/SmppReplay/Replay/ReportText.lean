import SmppReplay.Document.Json.Printer
import SmppReplay.Document.Json.Reader
import SmppReplay.Document.Reading
import SmppReplay.Replay.Outcome

/-!
# Reports as JSON

`Report.toJson` writes a report, and `Report.ofJson?` reads one.  The outcome names its
status, and an aborted run its reason.  A list may stand for the report, and another for the
outcome; no field has a default.
-/

namespace SmppReplay
namespace Replay

/-- The outcome as a record inside a report. -/
def Outcome.toJson : Outcome → String
  | .completed => Document.Json.record 1 [("status", Document.Json.text "completed")]
  | .aborted reason =>
      Document.Json.record 1
        [("status", Document.Json.text "aborted"), ("reason", Document.Json.text reason)]

/-- The report as a record. -/
def Report.toJson (r : Report) : String :=
  Document.Json.record 0
    [("events_processed", toString r.events.toNat),
      ("final_sequence", toString r.nextSequence.toNat),
      ("duration_ms", toString r.milliseconds.toNat),
      ("outcome", r.outcome.toJson)]

/-- How deep lists and records may lie inside each other in an outcome. -/
def Outcome.depth : Nat := 126

/-- The outcome that a record or a list stands for.  The whole value is read, also what is
passed over later, so that it has to be readable throughout. -/
def Outcome.ofDocument? (d : Document) : Option Outcome := do
  guard (d.readableWithin Outcome.depth)
  match d with
  | .record entries =>
      let fs ← Document.knownEntries ["status"] entries
      let status ← fs.required "status" Document.asText
      if status = "aborted" then
        let gs ← Document.knownEntries ["reason"] entries
        (gs.required "reason" Document.asText).map .aborted
      else if status = "completed" then some .completed
      else none
  | .list [status] => if status.asText = some "completed" then some .completed else none
  | .list [status, reason] =>
      if status.asText = some "aborted" then reason.asText.map .aborted else none
  | _ => none

/-- The report that a document stands for. -/
def Report.ofDocument? (d : Document) : Option Report := do
  let fs ← d.asFields .exact ["events_processed", "final_sequence", "duration_ms", "outcome"]
  let events ← fs.required "events_processed" (Document.asNatural UInt64.size)
  let next ← fs.required "final_sequence" (Document.asNatural UInt32.size)
  let milliseconds ← fs.required "duration_ms" (Document.asNatural UInt64.size)
  let outcome ← fs.required "outcome" Outcome.ofDocument?
  return {
    events := UInt64.ofNat events
    nextSequence := UInt32.ofNat next
    milliseconds := UInt64.ofNat milliseconds
    outcome }

/-- Reads a report. -/
def Report.ofJson? (s : String) : Option Report :=
  (Document.Json.read? s).bind Report.ofDocument?

end Replay
end SmppReplay
