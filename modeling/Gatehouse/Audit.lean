import Gatehouse.Failure.Basic
import Gatehouse.Log

/-!
# Audit lines

Every account flow is logged by its name and by how it ended: one line when it
starts and one when it ends.  The lines never carry an argument of the flow; a
refusal appears by its kind and a fault by its class.

Main results:

- `Ending.line_refused`: two refusals of one kind leave the same line.
-/

namespace Gatehouse.Audit

/-- How a flow ended. -/
inductive Ending
  | succeeded
  | refused (kind : Kind)
  | cancelled
  | failed (label : String)
deriving DecidableEq, Repr

/-- How a failed flow ended. -/
def Ending.ofFailure : Failure → Ending
  | .refused c => .refused c.kind
  | .fault f => .failed f.label
  | .cancelled => .cancelled

/-- The ending of an outcome. -/
def Ending.of {α : Type} : Except Failure α → Ending
  | .ok _ => .succeeded
  | .error e => .ofFailure e

/-- The line that opens a flow. -/
def attempt (name : String) : LogLine :=
  ⟨.info, .accounts, name ++ " attempt"⟩

/-- The line that closes a flow. -/
def Ending.line (name : String) : Ending → LogLine
  | .succeeded => ⟨.info, .accounts, name ++ " succeeded"⟩
  | .refused kind => ⟨.warning, .accounts, name ++ " failed: " ++ kind.code⟩
  | .cancelled => ⟨.info, .accounts, name ++ " cancelled"⟩
  | .failed label => ⟨.error, .accounts, name ++ " failed unexpectedly: " ++ label⟩

/-- The line of a refusal names its kind and nothing else about it. -/
theorem Ending.line_refused (name : String) {c d : Cause} (h : c.kind = d.kind) :
    (Ending.ofFailure (.refused c)).line name = (Ending.ofFailure (.refused d)).line name := by
  simp [Ending.ofFailure, h]

/-- The lines around a flow that itself logs nothing. -/
def lines (name : String) (ending : Ending) : List LogLine :=
  [attempt name, ending.line name]

end Gatehouse.Audit
