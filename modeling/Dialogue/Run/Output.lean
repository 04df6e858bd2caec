/-
What a turn produces: outputs in the order in which they arise, the reason why it stopped, and the
result that puts them together with the session and the trace.
-/
import Dialogue.Flow.Node
import Dialogue.Session
import Dialogue.Trace

namespace Dialogue

/-- Something for the user, or a notice for those who watch over the conversation. -/
inductive Output
  | message (node text : String)
  | question (node text : String) (choices : List Choice)
  | transfer (node text : String)
  | typing (node : String) (seconds : Binary)
  | system (node : Option String) (text : String)
deriving DecidableEq, Repr

namespace Output

/-- The text of an output. -/
def text? : Output → Option String
  | .message _ text => some text
  | .question _ text _ => some text
  | .transfer _ text => some text
  | .typing _ _ => none
  | .system _ text => some text

/-- Whether the user sees an output. -/
def isVisible : Output → Bool
  | .message .. => true
  | .question .. => true
  | .transfer .. => true
  | .typing .. => false
  | .system .. => false

end Output

/-- Why a turn stopped. -/
inductive Termination
  | awaitingInput
  | ended
  | transferred
  | endOfGraph
  | budgetExceeded (budget : Nat)
deriving DecidableEq, Repr

namespace Termination

/-- Whether the conversation is over. -/
def isCompleted : Termination → Bool
  | .awaitingInput => false
  | _ => true

/-- Whether the turn was cut off. -/
def isAbnormal : Termination → Bool
  | .budgetExceeded _ => true
  | _ => false

/-- The word for a reason. -/
def word : Termination → String
  | .awaitingInput => "awaiting_input"
  | .ended => "ended"
  | .transferred => "transferred"
  | .endOfGraph => "end_of_graph"
  | .budgetExceeded _ => "step_budget_exceeded"

end Termination

/-- The texts that the user sees of a list of outputs. -/
def visibleTexts (outputs : List Output) : List String :=
  (outputs.filter (·.isVisible)).filterMap (·.text?)

/-- The result of a turn. -/
structure Result where
  responses : List Output
  session : Session
  termination : Termination
  steps : Nat
  trace : Trace

namespace Result

/-- Whether the conversation is over. -/
def completed (r : Result) : Bool := r.termination.isCompleted

/-- The texts that the user sees. -/
def messages (r : Result) : List String := visibleTexts r.responses

end Result

end Dialogue
