/-
The written form of nodes. A node is a table of its id, its label, the name of its kind and the
fields of the kind; the fields of the kind are read after the name is known, from a strict table,
so there a number is never taken for a text.

Every type has a writer `toDocument` and a reader `ofDocument?`. A reader skips keys that it does
not know.
-/
import Dialogue.Document.Record
import Dialogue.Flow.Node

namespace Dialogue

open Document

/-! ## Choices and branches -/

/-- The document of a choice. -/
def Choice.toDocument (c : Choice) : Document :=
  record [("label", text c.label), ("value", text c.value)]

/-- The choice that a document describes. -/
def Choice.ofDocument? (d : Document) : Read Choice := do
  let fields ← d.record? ["label", "value"]
  let label ← required? fields "label" text?
  let value ← optional? fields "value" "" text?
  return ⟨label, value⟩

/-- The document of a branch. -/
def Branch.toDocument : Branch → Document
  | .when expression target => record [("if", text expression), ("goto", text target)]
  | .otherwise target => record [("else", bool true), ("goto", text target)]

/-- The branch that a document describes: one that is always taken if it says so, whatever its
expression. -/
def Branch.ofDocument? (d : Document) : Read Branch := do
  let fields ← d.record? ["if", "else", "goto"]
  let expression ← optional? fields "if" none (nullable? text?)
  let always ← optional? fields "else" false bool?
  let target ← optional? fields "goto" "" text?
  return if always then .otherwise target else .when (expression.getD "") target

/-! ## The fields of the kinds -/

/-- The fields of a text. -/
def contentField (content : String) : List (String × Document) := [("content", text content)]

/-- The text of a record that has nothing else. -/
def content? (d : Document) : Read String := do
  let fields ← d.record? ["content"]
  optional? fields "content" "" text?

/-- The fields of a question. -/
def Question.fields (q : Question) : List (String × Document) :=
  [("content", text q.content), ("variable", text q.variableName)]
    ++ listed "options" (q.choices.map Choice.toDocument)

/-- The question that a document describes. -/
def Question.ofDocument? (d : Document) : Read Question := do
  let fields ← d.record? ["content", "variable", "options"]
  let content ← optional? fields "content" "" text?
  let variableName ← optional? fields "variable" "" text?
  let choices ← optional? fields "options" [] (listOf? Choice.ofDocument?)
  return ⟨content, variableName, choices⟩

/-- The branches of a record that has nothing else. -/
def branches? (d : Document) : Read (List Branch) := do
  let fields ← d.record? ["conditions"]
  optional? fields "conditions" [] (listOf? Branch.ofDocument?)

/-- The fields of an action. -/
def Action.fields (a : Action) : List (String × Document) :=
  [("action", text a.name), ("payload", ofValue a.payload)]

/-- The action that a document describes. -/
def Action.ofDocument? (d : Document) : Read Action := do
  let fields ← d.record? ["action", "payload"]
  let name ← required? fields "action" text?
  let payload ← optional? fields "payload" .null value?
  return ⟨name, payload⟩

/-- The table of a dictionary of texts. -/
def textTable (dictionary : Dictionary String) : Document :=
  record (dictionary.entries.map fun e => (e.1, text e.2))

/-- The fields of a webhook. -/
def Webhook.fields (w : Webhook) : List (String × Document) :=
  [("url", text w.url), ("method", text w.method)]
    ++ given "headers" (if w.headers.isEmpty then none else some (textTable w.headers))
    ++ given "body" (w.body.map ofValue)
    ++ given "timeoutMs" (w.timeoutMs.map nat)
    ++ [("variable", text w.variableName)]

/-- The webhook that a document describes. -/
def Webhook.ofDocument? (d : Document) : Read Webhook := do
  let fields ← d.record? ["url", "method", "headers", "body", "timeoutMs", "variable"]
  let url ← required? fields "url" text?
  let method ← optional? fields "method" "GET" text?
  let headers ← optional? fields "headers" .empty (dictionaryOf? text?)
  let body ← optional? fields "body" none (nullable? value?)
  let timeoutMs ← optional? fields "timeoutMs" none (nullable? (natural? maxInteger))
  let variableName ← optional? fields "variable" "" text?
  return ⟨url, method, headers, body, timeoutMs, variableName⟩

/-- The greatest number of tokens. -/
def maxTokenLimit : Nat := Nat.pow 2 32 - 1

/-- The document of a number of single precision. -/
def single (x : Binary) : Document := number (.single x)

/-- The fields of a prompt. -/
def Prompt.fields (p : Prompt) : List (String × Document) :=
  [("systemPrompt", text p.system), ("userPrompt", text p.user)]
    ++ given "model" (p.model.map text)
    ++ given "temperature" (p.temperature.map single)
    ++ given "maxTokens" (p.maxTokens.map nat)
    ++ [("variable", text p.variableName)]

/-- The prompt that a document describes. -/
def Prompt.ofDocument? (d : Document) : Read Prompt := do
  let fields ← d.record?
    ["systemPrompt", "userPrompt", "model", "temperature", "maxTokens", "variable"]
  let system ← optional? fields "systemPrompt" "" text?
  let user ← optional? fields "userPrompt" "" text?
  let model ← optional? fields "model" none (nullable? text?)
  let temperature ← optional? fields "temperature" none (nullable? single?)
  let maxTokens ← optional? fields "maxTokens" none (nullable? (natural? maxTokenLimit))
  let variableName ← optional? fields "variable" "" text?
  return ⟨system, user, model, temperature, maxTokens, variableName⟩

/-- The fields of a delay. -/
def Delay.fields (d : Delay) : List (String × Document) :=
  [("seconds", number (.double d.seconds)), ("typingIndicator", bool d.typing)]

/-- The delay that a document describes. -/
def Delay.ofDocument? (d : Document) : Read Delay := do
  let fields ← d.record? ["seconds", "typingIndicator"]
  let seconds ← optional? fields "seconds" (.zero .double) double?
  let typing ← optional? fields "typingIndicator" false bool?
  return ⟨seconds, typing⟩

/-! ## Kinds -/

/-- Nothing at all, where unknown fields do not count. -/
def nothing? : Document → Read Unit
  | .table _ _ => return ()
  | .list _ [] => return ()
  | _ => failure

/-- The fields of a kind. -/
def NodeKind.fields : NodeKind → List (String × Document)
  | .trigger => []
  | .message content => contentField content
  | .question q => q.fields
  | .condition branches => [("conditions", items (branches.map Branch.toDocument))]
  | .action a => a.fields
  | .webhook w => w.fields
  | .aiResponse p => p.fields
  | .delay d => d.fields
  | .transfer content => contentField content
  | .finish => []

/-- The kind with a name whose fields a document describes. -/
def NodeKind.ofDocument? (name : String) (d : Document) : Read NodeKind :=
  match name with
  | "trigger" => do nothing? d; return .trigger
  | "message" => do return .message (← content? d)
  | "question" => do return .question (← Question.ofDocument? d)
  | "condition" => do return .condition (← branches? d)
  | "action" => do return .action (← Action.ofDocument? d)
  | "webhook" => do return .webhook (← Webhook.ofDocument? d)
  | "ai_response" => do return .aiResponse (← Prompt.ofDocument? d)
  | "delay" => do return .delay (← Delay.ofDocument? d)
  | "transfer" => do return .transfer (← content? d)
  | "end" => do nothing? d; return .finish
  | _ => failure

/-- The kind that a document describes on its own, its name in the field `type`. -/
def NodeKind.ofVariant? (d : Document) : Read NodeKind := do
  let (name, fields) ← d.variant? "type"
  NodeKind.ofDocument? name fields

/-! ## Nodes -/

/-- The name of the kind that a strict document gives: the name itself, or its position. -/
def NodeKind.name? (d : Document) : Read String :=
  d.text? <|> do Read.found NodeKind.names[← d.position?]?

/-- The document of a node. -/
def Node.toDocument (n : Node) : Document :=
  record ([("id", text n.id)] ++ given "label" (n.label.map text)
    ++ [("type", text n.kind.name)] ++ n.kind.fields)

/-- The entries of a table whose keys are all texts. -/
def named? (entries : List (Document × Document)) : Read (List (String × Document)) :=
  entries.mapM fun e => do return (← e.1.text?, e.2)

/-- The documents at a name. -/
def documentsAt (name : String) (fields : List (String × Document)) : List Document :=
  (fields.filter (·.1 == name)).map (·.2)

/-- The only document at a name. -/
def documentAt? (name : String) (fields : List (String × Document)) : Read Document :=
  match documentsAt name fields with
  | [d] => return d
  | _ => failure

/-- The label among the fields of a node: given at most once, and perhaps null. -/
def label? (fields : List (String × Document)) : Read (Option String) :=
  match documentsAt "label" fields with
  | [] => return none
  | [d] => nullable? text? d
  | _ => failure

/-- The kind of a node, from the fields that are neither its id nor its label. -/
def NodeKind.ofFields? (fields : List (String × Document)) : Read NodeKind := do
  let fields ← fields.mapM fun f => do return (f.1, ← f.2.settle)
  let name ← NodeKind.name? (← documentAt? "type" fields)
  NodeKind.ofDocument? name (record (fields.filter (·.1 != "type")))

/-- The node that a document describes. Whatever is neither id nor label has to be readable, even
what the kind does not know. -/
def Node.ofDocument? (d : Document) : Read Node := do
  match ← d.content with
  | .table _ entries =>
    let fields ← named? entries
    let id ← (← documentAt? "id" fields).text?
    let label ← label? fields
    let kind ← NodeKind.ofFields? (fields.filter fun f => f.1 != "id" && f.1 != "label")
    return ⟨id, label, kind⟩
  | _ => failure

end Dialogue
