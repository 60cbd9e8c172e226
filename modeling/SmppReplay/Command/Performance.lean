import SmppReplay.Command.Plan
import SmppReplay.Replay.State
import SmppReplay.Transcript.Log

/-!
# The command as a whole

**Input.** The arguments, what the system tells, whether files can be created and written,
and how a run that is set up goes.

**Result.** What the command shows, what it leaves in the transcript, and its exit status:
zero if the run was completed, one if it was not or if none took place, two if the arguments
are wrong.
-/

namespace SmppReplay
namespace Command

/-- What a command did. -/
structure Performance where
  output : String := ""
  /-- What stands on the error stream. -/
  complaints : String := ""
  /-- The path and the text of the transcript that was created. -/
  transcript : Option (String × String) := none
  status : UInt32
  deriving DecidableEq, Repr

/-- The exit status for a refusal. -/
def refusedStatus : UInt32 := 1

/-- The exit status for wrong arguments. -/
def misuseStatus : UInt32 := 2

/-- The exit status for a run. -/
def statusOf (r : Replay.Report) : UInt32 :=
  if r.isCompleted then 0 else 1

/-- How the command describes the end of a run. -/
def endLine : Replay.Outcome → String
  | .completed => "✓ 批处理执行完成"
  | .aborted reason => "✗ 批处理中止: " ++ reason

/-- What the command shows after a run. -/
def summary (r : Replay.Report) (path : String) : String :=
  String.join (["", endLine r.outcome, s!"  事件数: {r.events.toNat}",
    s!"  结束序号: {r.nextSequence.toNat}", s!"  耗时: {r.milliseconds.toNat} ms",
    "  运行记录: " ++ path].map (· ++ "\n"))

/-- How runs go, and what files allow. -/
structure Stage where
  host : Host
  /-- A file can be created at the path. -/
  creates : String → Bool
  /-- The file at the path takes what is written to it. -/
  writes : String → Bool
  /-- The report of a run, and the entries of its transcript. -/
  run : Setup → Batch → Replay.Report × List Transcript.Stamped

/-- Lines of a text. -/
def textOf (lines : List String) : String :=
  String.join (lines.map (· ++ "\n"))

/-- A plan is carried out. -/
def Plan.perform (p : Plan) (stage : Stage) : Performance :=
  let created := stage.creates p.transcript
  match p.setup created with
  | .error e =>
      { complaints := e.message
        transcript := if created then some (p.transcript, "") else none
        status := refusedStatus }
  | .ok setup =>
      let (report, entries) := stage.run setup p.batch
      let log := entries.foldl (Transcript.Log.append · (stage.writes p.transcript) ·) p.log
      { output := textOf log.console ++ summary report p.transcript
        complaints := textOf log.diverted
        transcript := some (p.transcript, log.transcript)
        status := statusOf report }

/-- The command is carried out; what help shows is left to the caller. -/
def perform (stage : Stage) (args : List String) : Performance :=
  match Request.ofArguments args with
  | .help => { status := 0 }
  | .version => { status := 0 }
  | .misuse => { status := misuseStatus }
  | .run a =>
      match prepare stage.host a with
      | .error e => { complaints := e.message, status := refusedStatus }
      | .ok p => p.perform stage

end Command
end SmppReplay
