/-
The settings of the engine: the budget of steps, the time limits of calls, how pauses are kept and
what the user reads when a generated reply fails.
-/
import Dialogue.Number.Binary

namespace Dialogue

/-- Whether the engine really waits in a pause. -/
inductive DelayPolicy
  | sleep
  | skip
deriving DecidableEq, Repr

/-- The word for a policy. -/
def DelayPolicy.word : DelayPolicy → String
  | .sleep => "sleep"
  | .skip => "skip"

/-- The settings of the engine. -/
structure Config where
  maxSteps : Nat
  webhookTimeoutMs : Nat
  aiTimeoutMs : Nat
  delayPolicy : DelayPolicy
  maxDelaySeconds : Binary
  aiFallback : Option String
deriving DecidableEq, Repr

/-- The settings when nothing else is said. -/
def Config.default : Config := ⟨20, 10000, 30000, .sleep, .ofInt .double 30, none⟩

instance : Inhabited Config := ⟨.default⟩

end Dialogue
