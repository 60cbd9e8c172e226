/-!
# Handles by which pauses are cut short

**State.** A handle counts the pauses in progress, and it holds the waits that a
notification wakes.  The two are changed by separate steps: a pause begins its wait and then
is counted; when it is over it ends its wait and then is not counted any more.

**Rules.** Whoever cuts pauses short looks at the counter and then notifies.  A notification
wakes every wait that was begun and is not over, and nothing is kept for later ones.
-/

namespace SmppReplay
namespace Replay

/-- What is behind a handle by which pauses are cut short. -/
structure PauseHandle where
  /-- The number of pauses in progress. -/
  pausing : Nat := 0
  /-- The waits that were begun and are not over, the latest last; each tells whether it was
  woken. -/
  waits : List Bool := []
  deriving DecidableEq, Repr

namespace PauseHandle

/-- A wait begins. -/
def wait (h : PauseHandle) : PauseHandle :=
  { h with waits := h.waits ++ [false] }

/-- A pause is counted. -/
def enter (h : PauseHandle) : PauseHandle :=
  { h with pausing := h.pausing + 1 }

/-- The latest wait is over. -/
def unwait (h : PauseHandle) : PauseHandle :=
  { h with waits := h.waits.dropLast }

/-- A pause is not counted any more. -/
def leave (h : PauseHandle) : PauseHandle :=
  { h with pausing := h.pausing - 1 }

/-- Every wait is woken. -/
def notify (h : PauseHandle) : PauseHandle :=
  { h with waits := h.waits.map fun _ => true }

/-- A pause is in progress, as far as the counter tells. -/
def isPausing (h : PauseHandle) : Bool :=
  0 < h.pausing

/-- The latest wait was woken. -/
def isWoken (h : PauseHandle) : Bool :=
  h.waits.getLast?.getD false

end PauseHandle

end Replay
end SmppReplay
