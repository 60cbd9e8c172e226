import SmppReplay.Command.Arguments
import SmppReplay.Settings.Load
import SmppReplay.Transcript.Log

/-!
# Before a run

**Order.** The settings are loaded and checked, and the script is compiled; only then the
transcript is created, and the run is set up.  The first step that fails ends the command.

* `prepare` makes the plan of a run; it touches no file.
* `Plan.setup` is the part of the plan that the run is set up with, after the transcript was
  created.
-/

namespace SmppReplay
namespace Command

/-- What the system tells the command. -/
structure Host where
  surroundings : Settings.Surroundings
  /-- The script file at a path. -/
  script : String → Batch.Source

/-- Why no run takes place. -/
inductive Refusal where
  | load (e : Settings.LoadError)
  | settings (e : SettingsFault)
  | script (e : Batch.CompileError)
  /-- The file at the path cannot be created. -/
  | transcript (path : String)
  | setup (e : ExecutionError)
  deriving DecidableEq, Repr

/-- What a refusal puts on the error stream. -/
def Refusal.message : Refusal → String
  | .load e => "Error: " ++ e.message ++ "\n"
  | .settings e => "Error: " ++ e.message ++ "\n"
  | .script e => "Error reading batch. Batch not run.\n" ++ e.message ++ "\n"
  | .transcript path => "Error: Failed to create transcript: " ++ Text.quotedPath path ++ "\n"
  | .setup e => "Error: " ++ e.message ++ "\n"

/-- A run that can begin. -/
structure Plan where
  settings : Settings
  batch : Batch
  /-- The path of the transcript. -/
  transcript : String

/-- Makes the plan that the arguments ask for. -/
def prepare (host : Host) (a : Arguments) : Except Refusal Plan := do
  let settings ← (Settings.load host.surroundings a.config).mapError .load
  if let some e := settings.fault? then throw (.settings e)
  let batch ← (Batch.compileFile settings.defaults (host.script a.script)).mapError .script
  return { settings, batch, transcript := a.transcript }

/-- Sets up the run, after the transcript was created or could not be. -/
def Plan.setup (p : Plan) (created : Bool) : Except Refusal Setup :=
  if created then p.settings.setup.mapError .setup else .error (.transcript p.transcript)

/-- The log of a run, on its new transcript. -/
def Plan.log (p : Plan) : Transcript.Log :=
  (Transcript.Log.onFile p.transcript).echoing p.settings.echo

end Command
end SmppReplay
