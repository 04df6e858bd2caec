/-
Summaries of turns: the numbers that tell at a glance how a turn went.
-/
import Dialogue.Run.Output

namespace Dialogue

/-- The summary of a turn. -/
structure Summary where
  termination : Termination
  steps : Nat
  failedSteps : Nat
  responses : Nat
  visible : Nat
  variableCount : Nat
  waitingOn : Option String
deriving DecidableEq, Repr

/-- The summary of a result. -/
def Result.summary (r : Result) : Summary where
  termination := r.termination
  steps := r.steps
  failedSteps := r.trace.count .failed
  responses := r.responses.length
  visible := r.responses.countP (·.isVisible)
  variableCount := r.session.vars.size
  waitingOn := r.session.awaiting

end Dialogue
