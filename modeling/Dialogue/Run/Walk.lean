/-
Turns: one message comes in, and the engine walks the flow until a question halts the chain, a node
ends it, the graph runs out or the budget of steps is spent.

A session that waits on a question of the flow goes on behind the question, the message being its
answer. Any other session starts at the flow's start node, which is itself not executed, after the
flow's defaults have been merged into its variables.
-/
import Dialogue.Run.Step

namespace Dialogue

/-- A walk under way: the node last executed, and what was gathered so far. -/
structure Progress where
  last : Option String
  session : Session
  responses : List Output
  steps : Nat
  trace : Trace
  ledger : Ledger

/-- The error noted for a reference to a node that is not in the flow. -/
def unknownNodeMessage : String := "unknown node"

/-- The error noted when the budget is spent. -/
def budgetMessage : String := "step budget exceeded"

namespace Progress

/-- The walk at its end, on a node. -/
def release (p : Progress) (node : Option String) (reason : Termination) : Result × Ledger :=
  (⟨p.responses, p.session.releaseAt node, reason, p.steps, p.trace⟩, p.ledger)

/-- The walk halted on a question. -/
def halt (p : Progress) (node : String) : Result × Ledger :=
  (⟨p.responses, p.session.haltAt node, .awaitingInput, p.steps, p.trace⟩, p.ledger)

/-- The walk with an error noted. -/
def note (p : Progress) (node message : String) : Progress :=
  { p with trace := p.trace.note node message }

/-- The walk after a step of a node. -/
def after (p : Progress) (node : Node) (r : StepReport) : Progress where
  last := some node.id
  session := { p.session with vars := r.vars }
  responses := p.responses ++ r.outputs
  steps := p.steps + 1
  trace :=
    let started := p.trace.start node.id node.kind.name
    let noted := match r.failure with
      | some failure => started.note node.id failure.message
      | none => started
    noted.finish node.id r.outcome r.remark
  ledger := r.ledger

end Progress

namespace Engine

/-- Walks on from a node, with a number of steps left. -/
def walk (engine : Engine) (flow : Flow) : Nat → Option String → Progress → Result × Ledger
  | remaining, next, p =>
    match next with
    | none => p.release p.last .endOfGraph
    | some id =>
      match flow.node? id with
      | none => (p.note id unknownNodeMessage).release p.last .endOfGraph
      | some node =>
        match remaining with
        | 0 => (p.note id budgetMessage).release (some id) (.budgetExceeded engine.config.maxSteps)
        | remaining + 1 =>
          let r := engine.step node p.session.vars p.ledger
          let p := p.after node r
          match r.control with
          | .follow => engine.walk flow remaining (flow.next? node.id) p
          | .jump target => engine.walk flow remaining (some target) p
          | .halt => p.halt node.id
          | .terminate reason => p.release (some node.id) reason

/-- The question of the flow on which a session waits, and its node. -/
def resumed? (flow : Flow) (session : Session) : Option (Node × Question) := do
  let id ← session.awaiting
  let node ← flow.node? id
  let q ← node.question?
  return (node, q)

/-- The session with which a turn begins to walk, and the node from which it goes on. -/
def opening (flow : Flow) (session : Session) (inbound : String) : Session × Option String :=
  match resumed? flow session with
  | some (node, q) =>
    let vars := session.vars.store q.variableName (.text (q.resolve inbound))
    ({ session with vars := vars }, some node.id)
  | none =>
    ({ session with vars := session.vars.mergeDefaults flow.defaults },
      flow.start?.map (·.id))

/-- One turn. A conversation that has no session yet gets a new one. -/
def run (engine : Engine) (flow : Flow) (session : Option Session) (inbound : String)
    (ledger : Ledger) : Result × Ledger :=
  let (session, origin) := opening flow (session.getD .new) inbound
  engine.walk flow engine.config.maxSteps (origin.bind flow.next?)
    ⟨origin, session, [], 0, .empty, ledger⟩

end Engine

end Dialogue
