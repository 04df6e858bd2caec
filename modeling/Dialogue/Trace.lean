/-
Traces: the record of a run. Every executed node has a numbered record that is opened when the node
starts and closed with an outcome when it ends; errors are noted beside the records.

A node may be executed several times, so closing looks for the latest record of the node that is
still open.
-/

namespace Dialogue

/-- How a step ended; a step that has not ended is `running`. -/
inductive Outcome
  | running
  | continue
  | jump
  | halt
  | terminate
  | failed
deriving DecidableEq, Repr

/-- All outcomes. -/
def Outcome.all : List Outcome := [.running, .continue, .jump, .halt, .terminate, .failed]

/-- The word for an outcome in records. -/
def Outcome.word : Outcome → String
  | .running => "running"
  | .continue => "continue"
  | .jump => "jump"
  | .halt => "halt"
  | .terminate => "terminate"
  | .failed => "failed"

/-- The outcome that a word names. -/
def Outcome.ofWord? (word : String) : Option Outcome := all.find? fun o => o.word == word

/-- The record of one step. -/
structure StepRecord where
  step : Nat
  node : String
  kind : String
  outcome : Outcome
  detail : Option String
deriving DecidableEq, Repr

/-- An error noted for a node. -/
structure Fault where
  node : String
  message : String
deriving DecidableEq, Repr

/-- The text of an error. -/
def Fault.text (fault : Fault) : String := fault.node ++ ": " ++ fault.message

/-- The line that shows an error of the run with the given id. -/
def Fault.line (fault : Fault) (runId : String) : String := "[" ++ runId ++ "] " ++ fault.text

/-- The records and errors of a run. -/
structure Trace where
  steps : List StepRecord
  faults : List Fault
deriving DecidableEq, Repr

namespace Trace

/-- The trace of a run that has not started. -/
def empty : Trace := ⟨[], []⟩

/-- The trace with a new open record for a node. -/
def start (t : Trace) (node kind : String) : Trace :=
  { t with steps := t.steps ++ [⟨t.steps.length + 1, node, kind, .running, none⟩] }

/-- Whether a record is the open record of a node. -/
def isOpen (node : String) (r : StepRecord) : Bool := r.node == node && r.outcome == .running

/-- Records in which the first one that satisfies `p` is replaced by its image. -/
def updateFirst (p : StepRecord → Bool) (f : StepRecord → StepRecord) :
    List StepRecord → List StepRecord
  | [] => []
  | r :: rest => if p r then f r :: rest else r :: updateFirst p f rest

/-- The trace with the latest open record of a node closed; without an open one nothing changes. -/
def finish (t : Trace) (node : String) (outcome : Outcome) (detail : Option String) : Trace :=
  { t with
    steps := (updateFirst (isOpen node)
      (fun r => { r with outcome := outcome, detail := detail }) t.steps.reverse).reverse }

/-- The trace with an error noted for a node. -/
def note (t : Trace) (node message : String) : Trace :=
  { t with faults := t.faults ++ [⟨node, message⟩] }

/-- The number of records with an outcome. -/
def count (t : Trace) (outcome : Outcome) : Nat := t.steps.countP (·.outcome == outcome)

/-- The number of records. -/
def size (t : Trace) : Nat := t.steps.length

/-- The nodes of the records in order. -/
def path (t : Trace) : List String := t.steps.map (·.node)

@[simp] theorem start_steps (t : Trace) (node kind : String) :
    (t.start node kind).steps = t.steps ++ [⟨t.steps.length + 1, node, kind, .running, none⟩] := rfl

@[simp] theorem start_faults (t : Trace) (node kind : String) : (t.start node kind).faults = t.faults := rfl

@[simp] theorem note_steps (t : Trace) (node message : String) : (t.note node message).steps = t.steps := rfl

@[simp] theorem note_faults (t : Trace) (node message : String) :
    (t.note node message).faults = t.faults ++ [⟨node, message⟩] := rfl

@[simp] theorem finish_faults (t : Trace) (node : String) (outcome : Outcome) (detail : Option String) :
    (t.finish node outcome detail).faults = t.faults := rfl

/-- Closing hits the last record when that is an open record of the node. -/
theorem finish_steps_of_open {t : Trace} {steps : List StepRecord} {r : StepRecord} (h : t.steps = steps ++ [r])
    (hr : isOpen r.node r = true) (outcome : Outcome) (detail : Option String) :
    (t.finish r.node outcome detail).steps = steps ++ [{ r with outcome := outcome, detail := detail }] := by
  unfold finish
  simp only [h, List.reverse_append, List.reverse_singleton, List.singleton_append, updateFirst]
  rw [if_pos hr]
  simp

end Trace

end Dialogue
