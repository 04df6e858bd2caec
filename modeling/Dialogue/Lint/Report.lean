/-
The report on a flow: its findings in a fixed order (ids, start, connections, nodes, reachability,
trigger). A flow without nodes gets a single finding.
-/
import Dialogue.Flow.Reach
import Dialogue.Lint.Finding

namespace Dialogue

/-- Texts that occur several times, in order, with the number of times. -/
def repeats (ss : List String) : List (String × Nat) :=
  (Dictionary.ofList (ss.map fun s => (s, ss.count s))).entries.filter fun e => 1 < e.2

namespace Flow

/-- Blank ids and ids that several nodes have. -/
def idFindings (f : Flow) : List Finding :=
  (f.ids.filter Text.isBlankText).map (fun _ => .blankId)
    ++ (repeats f.ids).map fun e => .repeatedId e.1 e.2

/-- A missing trigger, and triggers behind the first. -/
def startFindings (f : Flow) : List Finding :=
  match (f.nodes.filter (·.isTrigger)).map (·.id) with
  | [] => f.ids.head?.toList.map .noTrigger
  | first :: rest => rest.map fun id => .extraTrigger id first

/-- The ends of a connection that name no node. -/
def connectionFindings (f : Flow) (c : Connection) : List Finding :=
  (if f.ids.contains c.source then [] else [.unknownSource c.source])
    ++ if f.ids.contains c.target then [] else [.unknownTarget c.source c.target]

/-- Nodes with several connections. -/
def fanFindings (f : Flow) : List Finding :=
  (repeats (f.connections.map (·.source))).map fun e => .fannedOut e.1 e.2

/-- An unreadable condition and an unknown target of a branch. -/
def branchFindings (f : Flow) (node : String) (b : Branch) : List Finding :=
  (match b with
    | .when expression _ =>
      if (Condition.read expression).isReadable then [] else [.unreadableCondition node expression]
    | .otherwise _ => [])
    ++ if f.ids.contains b.target then [] else [.unknownGoto node b.target]

/-- What is missing in the settings of a node. -/
def nodeFindings (f : Flow) (n : Node) : List Finding :=
  match n.kind with
  | .question q => if Text.isBlankText q.variableName then [.droppedAnswer n.id] else []
  | .condition branches =>
    (if branches.isEmpty then [.noBranches n.id] else [])
      ++ branches.flatMap (f.branchFindings n.id)
  | .webhook w => if Text.isBlankText w.url then [.noUrl n.id] else []
  | .action a => if Text.isBlankText a.name then [.namelessAction n.id] else []
  | _ => []

/-- Nodes, triggers aside, that no walk comes to. -/
def reachFindings (f : Flow) : List Finding :=
  let reached := f.reached
  (f.nodes.filter fun n => !reached.contains n.id && !n.isTrigger).map fun n => .unreachable n.id

/-- A keyword trigger that no message sets off. -/
def triggerFindings (f : Flow) : List Finding :=
  if f.trigger.kind = .keyword ∧ f.trigger.keywords.all Text.isBlankText then [.silentKeywords]
  else []

/-- All findings on a flow. -/
def findings (f : Flow) : List Finding :=
  if f.nodes.isEmpty then [.noNodes]
  else f.idFindings ++ f.startFindings ++ f.connections.flatMap f.connectionFindings
    ++ f.fanFindings ++ f.nodes.flatMap f.nodeFindings ++ f.reachFindings ++ f.triggerFindings

/-- The errors on a flow. -/
def errors (f : Flow) : List Finding := f.findings.filter (·.isError)

/-- The message that refuses a flow with errors. -/
def refusal? (f : Flow) : Option String :=
  if f.errors.isEmpty then none
  else some (toString f.errors.length ++ " validation error(s):\n"
    ++ "\n".intercalate (f.errors.map (·.line)))

end Flow

end Dialogue
