/-
Nodes: the parts of a conversation. Each kind has its own settings; what a node does when it is
executed is defined with the engine.
-/
import Dialogue.Value.Basic
import Dialogue.Text.Blank
import Dialogue.Text.Case

namespace Dialogue

/-! ## Settings of the kinds -/

/-- One of the answers that a question offers. -/
structure Choice where
  label : String
  value : String
deriving DecidableEq, Repr

/-- What is stored when the choice is taken: its value, or its label when the value is empty. -/
def Choice.stored (c : Choice) : String := if c.value = "" then c.label else c.value

/-- A question to the user. The answer goes into the variable, if it has a name. -/
structure Question where
  content : String
  variableName : String
  choices : List Choice
deriving DecidableEq, Repr

/-- What is stored for an answer: that of the first choice whose label is the answer (blanks around
and case aside) or whose stored text is exactly the answer, else the answer itself. -/
def Question.resolve (q : Question) (answer : String) : String :=
  let folded := Text.lower (Text.trim answer)
  match q.choices.find? fun c =>
      Text.lower (Text.trim c.label) == folded || c.stored == answer with
  | some c => c.stored
  | none => answer

/-- A branch of a condition node: taken when its expression holds, or always. -/
inductive Branch
  | when (expression target : String)
  | otherwise (target : String)
deriving DecidableEq, Repr

/-- The node that a branch leads to. -/
def Branch.target : Branch → String
  | .when _ target => target
  | .otherwise target => target

/-- A call of an action by name. -/
structure Action where
  name : String
  payload : Value
deriving BEq

/-- A call of a web service. The reply goes into the variable, if it has a name. -/
structure Webhook where
  url : String
  method : String
  headers : Dictionary String
  body : Option Value
  timeoutMs : Option Nat
  variableName : String
deriving BEq

/-- A request for a generated reply. The reply goes into the variable, if it has a name. -/
structure Prompt where
  system : String
  user : String
  model : Option String
  temperature : Option Binary
  maxTokens : Option Nat
  variableName : String
deriving BEq

/-- A pause, with or without a sign that someone is typing. -/
structure Delay where
  seconds : Binary
  typing : Bool
deriving BEq

/-! ## Nodes -/

/-- What a node is for. -/
inductive NodeKind
  | trigger
  | message (content : String)
  | question (q : Question)
  | condition (branches : List Branch)
  | action (a : Action)
  | webhook (w : Webhook)
  | aiResponse (p : Prompt)
  | delay (d : Delay)
  | transfer (content : String)
  | finish
deriving BEq

/-- The names of the kinds, in the order of their numbers. -/
def NodeKind.names : List String :=
  ["trigger", "message", "question", "condition", "action", "webhook", "ai_response", "delay",
    "transfer", "end"]

/-- The name of a kind. -/
def NodeKind.name : NodeKind → String
  | .trigger => "trigger"
  | .message _ => "message"
  | .question _ => "question"
  | .condition _ => "condition"
  | .action _ => "action"
  | .webhook _ => "webhook"
  | .aiResponse _ => "ai_response"
  | .delay _ => "delay"
  | .transfer _ => "transfer"
  | .finish => "end"

/-- A node of a flow. -/
structure Node where
  id : String
  label : Option String
  kind : NodeKind
deriving BEq

namespace Node

/-- Whether a node is a trigger. -/
def isTrigger (n : Node) : Bool := match n.kind with
  | .trigger => true
  | _ => false

/-- The question of a question node. -/
def question? (n : Node) : Option Question := match n.kind with
  | .question q => some q
  | _ => none

/-- The name of the variable that a node's answer or reply is for; it may be empty. -/
def variableName? (n : Node) : Option String := match n.kind with
  | .question q => some q.variableName
  | .webhook w => some w.variableName
  | .aiResponse p => some p.variableName
  | _ => none

/-- The variable that a node writes. -/
def target? (n : Node) : Option String := n.variableName?.filter (· ≠ "")

end Node

end Dialogue
