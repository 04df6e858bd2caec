/-
The written form of what runs take and give: sessions, outputs, terminations, requests, responses
and settings. Outputs and terminations name their variant in a field of their own.
-/
import Dialogue.Run.Config
import Dialogue.Run.Output
import Dialogue.Run.Service
import Dialogue.Shape.Flow

namespace Dialogue

open Document

/-! ## Sessions -/

/-- The document of a session. -/
def Session.toDocument (s : Session) : Document :=
  record [("currentNodeId", textOrNull s.currentNode), ("variables", variablesDocument s.vars),
    ("waitingForInput", bool s.waiting)]

/-- The session that a document describes. -/
def Session.ofDocument? (d : Document) : Read Session := do
  let fields ← d.record? ["currentNodeId", "variables", "waitingForInput"]
  let currentNode ← optional? fields "currentNodeId" none (nullable? text?)
  let vars ← optional? fields "variables" .empty variables?
  let waiting ← optional? fields "waitingForInput" false bool?
  return ⟨currentNode, vars, waiting⟩

/-! ## Outputs -/

/-- The document of an output. -/
def Output.toDocument : Output → Document
  | .message node t =>
    record [("type", text "message"), ("nodeId", text node), ("text", text t)]
  | .question node t choices =>
    record ([("type", text "question"), ("nodeId", text node), ("text", text t)]
      ++ listed "options" (choices.map Choice.toDocument))
  | .transfer node t =>
    record [("type", text "transfer"), ("nodeId", text node), ("text", text t)]
  | .typing node seconds =>
    record [("type", text "typing"), ("nodeId", text node), ("seconds", number (.double seconds))]
  | .system node t =>
    record ([("type", text "system")] ++ given "nodeId" (node.map text) ++ [("text", text t)])

/-- A node and a text. -/
def nodeText? (d : Document) : Read (String × String) := do
  let fields ← d.record? ["nodeId", "text"]
  let node ← required? fields "nodeId" text?
  let t ← required? fields "text" text?
  return (node, t)

/-- The question that a document describes. -/
def questionOutput? (d : Document) : Read Output := do
  let fields ← d.record? ["nodeId", "text", "options"]
  let node ← required? fields "nodeId" text?
  let t ← required? fields "text" text?
  let choices ← optional? fields "options" [] (listOf? Choice.ofDocument?)
  return .question node t choices

/-- The sign of typing that a document describes. -/
def typingOutput? (d : Document) : Read Output := do
  let fields ← d.record? ["nodeId", "seconds"]
  let node ← required? fields "nodeId" text?
  let seconds ← required? fields "seconds" double?
  return .typing node seconds

/-- The notice that a document describes. -/
def systemOutput? (d : Document) : Read Output := do
  let fields ← d.record? ["nodeId", "text"]
  let node ← optional? fields "nodeId" none (nullable? text?)
  let t ← required? fields "text" text?
  return .system node t

/-- The output that a document describes. -/
def Output.ofDocument? (d : Document) : Read Output := do
  let (name, rest) ← d.variant? "type"
  match name with
  | "message" => let (node, t) ← nodeText? rest; return .message node t
  | "question" => questionOutput? rest
  | "transfer" => let (node, t) ← nodeText? rest; return .transfer node t
  | "typing" => typingOutput? rest
  | "system" => systemOutput? rest
  | _ => failure

/-! ## Terminations -/

/-- The document of a termination. -/
def Termination.toDocument (t : Termination) : Document :=
  record ([("kind", text t.word)] ++ match t with
    | .budgetExceeded budget => [("budget", nat budget)]
    | _ => [])

/-- The budget that a document gives. -/
def budget? (d : Document) : Read Nat := do
  let fields ← d.record? ["budget"]
  required? fields "budget" (natural? maxInteger)

/-- The termination that a document describes. -/
def Termination.ofDocument? (d : Document) : Read Termination := do
  let (name, rest) ← d.variant? "kind"
  match name with
  | "awaiting_input" => nothing? rest; return .awaitingInput
  | "ended" => nothing? rest; return .ended
  | "transferred" => nothing? rest; return .transferred
  | "end_of_graph" => nothing? rest; return .endOfGraph
  | "step_budget_exceeded" => return .budgetExceeded (← budget? rest)
  | _ => failure

/-! ## Requests and responses -/

/-- The document of a call of a web service. -/
def WebhookRequest.toDocument (r : WebhookRequest) : Document :=
  record ([("url", text r.url), ("method", text r.method), ("headers", textTable r.headers)]
    ++ given "body" (r.body.map ofValue) ++ [("timeoutMs", nat r.timeoutMs)])

/-- The call of a web service that a document describes. -/
def WebhookRequest.ofDocument? (d : Document) : Read WebhookRequest := do
  let fields ← d.record? ["url", "method", "headers", "body", "timeoutMs"]
  let url ← required? fields "url" text?
  let method ← required? fields "method" text?
  let headers ← optional? fields "headers" .empty (dictionaryOf? text?)
  let body ← optional? fields "body" none (nullable? value?)
  let timeoutMs ← required? fields "timeoutMs" (natural? maxInteger)
  return ⟨url, method, headers, body, timeoutMs⟩

/-- The greatest status of a response. -/
def maxStatus : Nat := Nat.pow 2 16 - 1

/-- The document of a response of a web service. -/
def WebhookResponse.toDocument (r : WebhookResponse) : Document :=
  record [("status", nat r.status), ("body", ofValue r.body)]

/-- The response of a web service that a document describes. -/
def WebhookResponse.ofDocument? (d : Document) : Read WebhookResponse := do
  let fields ← d.record? ["status", "body"]
  let status ← required? fields "status" (natural? maxStatus)
  let body ← optional? fields "body" .null value?
  return ⟨status, body⟩

/-- The document of a request for a generated reply. -/
def AiRequest.toDocument (r : AiRequest) : Document :=
  record ([("systemPrompt", text r.system), ("userPrompt", text r.user)]
    ++ given "model" (r.model.map text)
    ++ given "temperature" (r.temperature.map single)
    ++ given "maxTokens" (r.maxTokens.map nat))

/-- The request for a generated reply that a document describes. -/
def AiRequest.ofDocument? (d : Document) : Read AiRequest := do
  let fields ← d.record? ["systemPrompt", "userPrompt", "model", "temperature", "maxTokens"]
  let system ← required? fields "systemPrompt" text?
  let user ← required? fields "userPrompt" text?
  let model ← optional? fields "model" none (nullable? text?)
  let temperature ← optional? fields "temperature" none (nullable? single?)
  let maxTokens ← optional? fields "maxTokens" none (nullable? (natural? maxTokenLimit))
  return ⟨system, user, model, temperature, maxTokens⟩

/-- The document of a generated reply. -/
def AiResponse.toDocument (r : AiResponse) : Document := record [("text", Document.text r.text)]

/-- The generated reply that a document describes. -/
def AiResponse.ofDocument? (d : Document) : Read AiResponse := do
  let fields ← d.record? ["text"]
  let t ← required? fields "text" text?
  return ⟨t⟩

/-- The document of a call of an action. -/
def ActionRequest.toDocument (r : ActionRequest) : Document :=
  record [("action", text r.name), ("payload", ofValue r.payload)]

/-- The call of an action that a document describes. -/
def ActionRequest.ofDocument? (d : Document) : Read ActionRequest := do
  let fields ← d.record? ["action", "payload"]
  let name ← required? fields "action" text?
  let payload ← optional? fields "payload" .null value?
  return ⟨name, payload⟩

/-! ## Settings -/

/-- The policies under their words. -/
def DelayPolicy.named : List (String × DelayPolicy) :=
  [DelayPolicy.sleep, .skip].map fun p => (p.word, p)

/-- The document of the settings of the engine. -/
def Config.toDocument (c : Config) : Document :=
  record [("max_steps", nat c.maxSteps), ("default_webhook_timeout_ms", nat c.webhookTimeoutMs),
    ("ai_timeout_ms", nat c.aiTimeoutMs), ("delay_policy", text c.delayPolicy.word),
    ("max_delay_seconds", number (.double c.maxDelaySeconds)),
    ("ai_fallback_message", textOrNull c.aiFallback)]

/-- The settings of the engine that a document describes. -/
def Config.ofDocument? (d : Document) : Read Config := do
  let base := Config.default
  let fields ← d.record? ["max_steps", "default_webhook_timeout_ms", "ai_timeout_ms",
    "delay_policy", "max_delay_seconds", "ai_fallback_message"]
  let maxSteps ← optional? fields "max_steps" base.maxSteps (natural? maxInteger)
  let webhookTimeoutMs ← optional? fields "default_webhook_timeout_ms" base.webhookTimeoutMs
    (natural? maxInteger)
  let aiTimeoutMs ← optional? fields "ai_timeout_ms" base.aiTimeoutMs (natural? maxInteger)
  let delayPolicy ← optional? fields "delay_policy" base.delayPolicy (choice? DelayPolicy.named)
  let maxDelaySeconds ← optional? fields "max_delay_seconds" base.maxDelaySeconds double?
  let aiFallback ← optional? fields "ai_fallback_message" base.aiFallback (nullable? text?)
  return ⟨maxSteps, webhookTimeoutMs, aiTimeoutMs, delayPolicy, maxDelaySeconds, aiFallback⟩

end Dialogue
