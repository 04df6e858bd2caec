/-
Log events: what is logged about a finished turn. Every event carries the id under which it is
logged; an aborted turn is an error, errors noted in the trace are warnings.
-/
import Dialogue.Run.Summary
import Dialogue.Text.Quoted

namespace Dialogue

/-- How urgent a log event is. -/
inductive LogLevel
  | info
  | warn
  | error
deriving DecidableEq, Repr

/-- The word for a level. -/
def LogLevel.word : LogLevel → String
  | .info => "INFO"
  | .warn => "WARN"
  | .error => "ERROR"

/-- A log event: its level, its message and its named fields. -/
structure LogEvent where
  level : LogLevel
  message : String
  fields : List (String × String)
deriving DecidableEq, Repr

namespace LogEvent

/-- The text of a truth value. -/
def flag (b : Bool) : String := if b then "true" else "false"

/-- A text that may be missing, as log fields show it. -/
def optional : Option String → String
  | some s => "Some(" ++ Text.quoted s ++ ")"
  | none => "None"

/-- The name of an outcome in log fields. -/
def outcomeName : Outcome → String
  | .running => "Running"
  | .continue => "Continue"
  | .jump => "Jump"
  | .halt => "Halt"
  | .terminate => "Terminate"
  | .failed => "Failed"

/-- A message for people. -/
def line (loggerId : String) (level : LogLevel) (message : String) : LogEvent :=
  ⟨level, message, [("trace_id", loggerId)]⟩

/-- The event of a summary. -/
def ofSummary (loggerId : String) (s : Summary) : LogEvent :=
  let head := [("trace_id", loggerId), ("termination", s.termination.word)]
  let counts := [("steps", toString s.steps), ("failed", toString s.failedSteps),
    ("responses", toString s.responses)]
  if s.termination.isAbnormal then ⟨.error, "Run aborted", head ++ counts⟩
  else
    ⟨.info, "Run summary", head ++ [("completed", flag s.termination.isCompleted)] ++ counts
      ++ [("user_visible", toString s.visible), ("variables", toString s.variableCount),
        ("waiting_on", optional s.waitingOn)]⟩

/-- The event of an error noted in the trace of a run. -/
def ofFault (loggerId runId : String) (fault : Fault) : LogEvent :=
  line loggerId .warn ("Run error: " ++ fault.line runId)

/-- The event of a step. -/
def ofStep (loggerId : String) (r : StepRecord) : LogEvent :=
  let head := [("trace_id", loggerId), ("step", toString r.step), ("node_id", r.node)]
  match r.outcome with
  | .failed =>
    ⟨.error, "Step failed",
      head ++ [("kind", r.kind), ("error", r.detail.getD "Unknown error")]⟩
  | .running => ⟨.warn, "Step never finished", head⟩
  | outcome =>
    ⟨.info, "Step finished",
      head ++ [("kind", r.kind), ("outcome", outcomeName outcome), ("detail", optional r.detail)]⟩

end LogEvent

/-- The events of a result: its summary, and the errors noted in its trace. -/
def Result.summaryEvents (r : Result) (loggerId runId : String) : List LogEvent :=
  .ofSummary loggerId r.summary :: r.trace.faults.map (.ofFault loggerId runId)

/-- The events of the steps of a trace. -/
def Trace.stepEvents (t : Trace) (loggerId : String) : List LogEvent :=
  t.steps.map (.ofStep loggerId)

end Dialogue
