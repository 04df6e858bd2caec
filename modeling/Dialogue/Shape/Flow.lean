/-
The written form of flows, their connections and their triggers. A flow's id may also be written as
a number; it is then the number's text.
-/
import Dialogue.Flow.Basic
import Dialogue.Shape.Node

namespace Dialogue

open Document

/-! ## Connections and triggers -/

/-- The document of a connection. -/
def Connection.toDocument (c : Connection) : Document :=
  record ([("from", text c.source), ("to", text c.target)] ++ given "label" (c.label.map text))

/-- The connection that a document describes. -/
def Connection.ofDocument? (d : Document) : Read Connection := do
  let fields ← d.record? ["from", "to", "label"]
  let source ← required? fields "from" text?
  let target ← required? fields "to" text?
  let label ← optional? fields "label" none (nullable? text?)
  return ⟨source, target, label⟩

/-- The name of a kind of trigger. -/
def TriggerKind.name : TriggerKind → String
  | .any => "any"
  | .keyword => "keyword"
  | .manual => "manual"

/-- The kinds of trigger under their names. -/
def TriggerKind.named : List (String × TriggerKind) :=
  [TriggerKind.any, .keyword, .manual].map fun k => (k.name, k)

/-- The document of a trigger. -/
def TriggerConfig.toDocument (t : TriggerConfig) : Document :=
  record ([("type", text t.kind.name)] ++ listed "keywords" (t.keywords.map text))

/-- The trigger that a document describes. -/
def TriggerConfig.ofDocument? (d : Document) : Read TriggerConfig := do
  let fields ← d.record? ["type", "keywords"]
  let kind ← optional? fields "type" .any (choice? TriggerKind.named)
  let keywords ← optional? fields "keywords" [] (listOf? text?)
  return ⟨kind, keywords⟩

/-! ## Variables -/

/-- The document of variables. -/
def variablesDocument (vars : Variables) : Document := .table true (ofFields vars.entries)

/-- The variables that a document describes. -/
def variables? (d : Document) : Read Variables := dictionaryOf? value? d

/-! ## Flows -/

/-- The document of a flow. -/
def Flow.toDocument (f : Flow) : Document :=
  record ([("id", text f.id), ("slug", text f.slug)] ++ given "name" (f.name.map text)
    ++ [("nodes", items (f.nodes.map Node.toDocument)),
      ("connections", items (f.connections.map Connection.toDocument)),
      ("triggerConfig", f.trigger.toDocument),
      ("variables", variablesDocument f.defaults)])

/-- The id that a document gives: a text, or a finite number as its text. -/
def flowId? (d : Document) : Read String := do
  match ← d.settle with
  | .leaf l => match l.value, l.value.number? with
    | .text s, _ => return s
    | _, some (.integer n) => return Json.number (.integer n)
    | _, some n => if n.toDouble.isFinite then return Json.number n else failure
    | _, none => failure
  | _ => failure

/-- The flow that a document describes. -/
def Flow.ofDocument? (d : Document) : Read Flow := do
  let fields ← d.record?
    ["id", "slug", "name", "nodes", "connections", "triggerConfig", "variables"]
  let id ← required? fields "id" flowId?
  let slug ← optional? fields "slug" "" text?
  let name ← optional? fields "name" none (nullable? text?)
  let nodes ← optional? fields "nodes" [] (listOf? Node.ofDocument?)
  let connections ← optional? fields "connections" [] (listOf? Connection.ofDocument?)
  let trigger ← optional? fields "triggerConfig" .default TriggerConfig.ofDocument?
  let defaults ← optional? fields "variables" .empty variables?
  return ⟨id, slug, name, nodes, connections, trigger, defaults⟩

end Dialogue
