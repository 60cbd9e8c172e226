import SmppReplay.Text.Quoted

/-!
# Reports

What is known about a run when it is over.
-/

namespace SmppReplay
namespace Replay

/-- How a run ended. -/
inductive Outcome where
  | completed
  /-- A message could not be sent. -/
  | aborted (reason : String)
  deriving DecidableEq, Repr

/-- The outcome on one line. -/
def Outcome.describe : Outcome → String
  | .completed => "Completed"
  | .aborted reason => "Aborted \x7b reason: " ++ Text.quoted reason ++ " \x7d"

/-- The report of a run. -/
structure Report where
  /-- The number of events that were taken up, with the one that ended the run. -/
  events : UInt64
  /-- The number for the next message without one. -/
  nextSequence : UInt32
  /-- How long the run took. -/
  milliseconds : UInt64
  outcome : Outcome
  deriving DecidableEq, Repr

/-- The run reached the end of its batch. -/
def Report.isCompleted (r : Report) : Bool :=
  r.outcome == .completed

end Replay
end SmppReplay
