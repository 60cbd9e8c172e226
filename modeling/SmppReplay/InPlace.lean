/-!
# Changes in place

A change in place works on a value that its caller keeps.  It says whether it was made, and
it leaves a value behind either way.
-/

namespace SmppReplay

/-- A change in place of a `σ`, which can be refused. -/
abbrev InPlace (ε σ : Type) : Type → Type :=
  EStateM ε σ

namespace InPlace

variable {ε σ : Type}

/-- The value that is left behind. -/
def state (x : InPlace ε σ Unit) (s : σ) : σ :=
  match x.run s with
  | .ok () s' => s'
  | .error _ s' => s'

/-- Whether the change was made. -/
def verdict (x : InPlace ε σ Unit) (s : σ) : Except ε Unit :=
  match x.run s with
  | .ok () _ => .ok ()
  | .error e _ => .error e

/-- The new value, for a caller who drops the value of a refused change. -/
def result (x : InPlace ε σ Unit) (s : σ) : Except ε σ :=
  (x.verdict s).map fun _ => x.state s

end InPlace

end SmppReplay
