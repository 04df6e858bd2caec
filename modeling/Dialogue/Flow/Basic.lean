/-
Flows: a conversation as a graph. Nodes and connections are kept in the order in which they are
listed, and where an id or a source occurs several times the first one counts.
-/
import Dialogue.Flow.Node
import Dialogue.Variables.Store

namespace Dialogue

/-- A connection from one node to another. -/
structure Connection where
  source : String
  target : String
  label : Option String
deriving DecidableEq, Repr

/-! ## Triggers -/

/-- Which messages start a flow. -/
inductive TriggerKind
  | any
  | keyword
  | manual
deriving DecidableEq, Repr

/-- When a flow starts by itself. -/
structure TriggerConfig where
  kind : TriggerKind
  keywords : List String
deriving DecidableEq, Repr

/-- A flow that starts on any message. -/
def TriggerConfig.default : TriggerConfig := ⟨.any, []⟩

/-- Whether a text in lower case contains a keyword; blank keywords are in no text. -/
def TriggerConfig.mentions (text : List Char) (keyword : String) : Bool :=
  let k := Text.lowerChars (Text.trimChars keyword.toList)
  -- the instance is named, for there is more than one
  !k.isEmpty && @decide (k <:+: text) (List.instDecidableIsInfixOfDecidableEq ..)

/-- Whether a message starts the flow. -/
def TriggerConfig.accepts (config : TriggerConfig) (inbound : String) : Bool :=
  match config.kind with
  | .any => true
  | .manual => false
  | .keyword =>
    let text := Text.lowerChars inbound.toList
    config.keywords.any (TriggerConfig.mentions text)

/-! ## Flows -/

/-- A conversation as a graph of nodes. -/
structure Flow where
  id : String
  slug : String
  name : Option String
  nodes : List Node
  connections : List Connection
  trigger : TriggerConfig
  defaults : Variables
deriving BEq

namespace Flow

/-- A flow without nodes, its id also its slug. -/
def new (id : String) : Flow := ⟨id, id, none, [], [], .default, .empty⟩

/-- The flow with a node added at the end. -/
def withNode (f : Flow) (n : Node) : Flow := { f with nodes := f.nodes ++ [n] }

/-- The flow with a connection added at the end. -/
def connect (f : Flow) (source target : String) : Flow :=
  { f with connections := f.connections ++ [⟨source, target, none⟩] }

/-- The flow with a default for a variable. -/
def withVariable (f : Flow) (name : String) (value : Value) : Flow :=
  { f with defaults := f.defaults.insert name value }

/-- The name under which a flow is shown. -/
def displayName (f : Flow) : String := f.name.getD f.slug

/-- The first node with an id. -/
def node? (f : Flow) (id : String) : Option Node := f.nodes.find? (·.id == id)

/-- Where a flow starts: the first trigger, or the first node when there is none. -/
def start? (f : Flow) : Option Node :=
  (f.nodes.find? (·.isTrigger)).or f.nodes.head?

/-- The connections from a node. -/
def outgoing (f : Flow) (id : String) : List Connection := f.connections.filter (·.source == id)

/-- Where the first connection from a node leads. -/
def next? (f : Flow) (id : String) : Option String :=
  (f.connections.find? (·.source == id)).map (·.target)

theorem node?_mem {f : Flow} {id : String} {n : Node} (h : f.node? id = some n) : n ∈ f.nodes :=
  List.mem_of_find?_eq_some h

theorem node?_id {f : Flow} {id : String} {n : Node} (h : f.node? id = some n) : n.id = id := by
  simpa using List.find?_some h

theorem node?_self {f : Flow} {id : String} {n : Node} (h : f.node? id = some n) : f.node? n.id = some n := by
  rw [node?_id h, h]

theorem node?_isSome_iff {f : Flow} {id : String} : (f.node? id).isSome = true ↔ ∃ n ∈ f.nodes, n.id = id := by
  unfold node?
  simp

theorem start?_eq_none_iff {f : Flow} : f.start? = none ↔ f.nodes = [] := by
  unfold start?
  cases f.nodes <;> simp

theorem next?_eq_none_iff {f : Flow} {id : String} : f.next? id = none ↔ f.outgoing id = [] := by
  unfold next? outgoing
  simp

end Flow

end Dialogue
