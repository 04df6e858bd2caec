/-
What runs take and give, written and read again: sessions, outputs, terminations, requests, responses and
settings. Outputs and terminations are told apart by a name that their other fields do not use.
-/
import Dialogue.Proofs.Shape.Flow
import Dialogue.Settings

namespace Dialogue

open Document

variable {digits : Binary → Number}

/-! ## Sessions -/

/-- A session comes back as it was written. -/
theorem Session.reread_toDocument {s : Session} (h : s.vars.WellFormed) :
    reread digits s.toDocument = s.toDocument := by
  simp [Session.toDocument, reread_variablesDocument h]

theorem Session.ofDocument?_toDocument {s : Session} (h : s.vars.WellFormed) :
    Session.ofDocument? s.toDocument = pure s := by
  unfold Session.ofDocument? Session.toDocument
  rw [record?_record (by simp) (by simp), pure_bind]
  generalize hf : ([_, _, _] : List (String × Document)) = fields
  have hnode : optional? fields "currentNodeId" none (nullable? text?) = pure s.currentNode :=
    optional?_eq none (by simp [← hf]) (nullable?_textOrNull _)
  have hvars : optional? fields "variables" .empty variables? = pure s.vars :=
    optional?_eq .empty (by simp [← hf]) (variables?_variablesDocument h)
  have hwaiting : optional? fields "waitingForInput" false bool? = pure s.waiting :=
    optional?_eq false (by simp [← hf]) (bool?_bool _)
  rw [hnode, pure_bind, hvars, pure_bind, hwaiting, pure_bind]

/-! ## Outputs -/

/-- What an output holds can be written. -/
def Output.Writable : Output → Prop
  | .typing _ seconds => seconds.isFinite = true
  | _ => True

/-- The name of an output's variant. -/
def Output.tag : Output → String
  | .message .. => "message"
  | .question .. => "question"
  | .transfer .. => "transfer"
  | .typing .. => "typing"
  | .system .. => "system"

/-- The fields of an output behind the name of its variant. -/
def Output.fields : Output → List (String × Document)
  | .message node t => [("nodeId", text node), ("text", text t)]
  | .question node t choices =>
    [("nodeId", text node), ("text", text t)] ++ listed "options" (choices.map Choice.toDocument)
  | .transfer node t => [("nodeId", text node), ("text", text t)]
  | .typing node seconds => [("nodeId", text node), ("seconds", number (.double seconds))]
  | .system node t => given "nodeId" (node.map text) ++ [("text", text t)]

theorem Output.toDocument_eq (o : Output) : o.toDocument = record (("type", text o.tag) :: o.fields) := by
  cases o <;> rfl

theorem Output.keys_fields (o : Output) : (o.fields.map (·.1)).Sublist ["nodeId", "text", "seconds", "options"] := by
  cases o with
  | question node t choices =>
    rw [fields, List.map_append]
    exact ((List.Sublist.refl _).append (keys_listed _ _)).trans (by simp)
  | system node t =>
    rw [fields, List.map_append]
    exact ((keys_given _ _).append (List.Sublist.refl _)).trans (by simp)
  | _ => simp [fields]

theorem nodeText?_fields (node t : String) :
    nodeText? (record (rereadFields digits [("nodeId", text node), ("text", text t)])) = pure (node, t) := by
  unfold nodeText?
  rw [record?_rereadFields (by simp) (by simp), pure_bind]
  generalize hf : rereadFields digits _ = fields
  have hnode : required? fields "nodeId" text? = pure node := required?_eq (by simp [← hf]) (text?_text _)
  have htext : required? fields "text" text? = pure t := required?_eq (by simp [← hf]) (text?_text _)
  rw [hnode, pure_bind, htext, pure_bind]

theorem questionOutput?_fields (node t : String) (choices : List Choice) :
    questionOutput? (record (rereadFields digits (Output.question node t choices).fields)) =
      pure (.question node t choices) := by
  unfold questionOutput?
  rw [record?_rereadFields, pure_bind]
  case hnames => simp
  case hkeys =>
    rw [Output.fields, List.map_append]
    exact (List.Sublist.refl _).append (keys_listed _ _)
  generalize hf : rereadFields digits _ = fields
  have hnode : required? fields "nodeId" text? = pure node :=
    required?_eq (by simp [← hf, Output.fields]) (text?_text _)
  have htext : required? fields "text" text? = pure t := required?_eq (by simp [← hf, Output.fields]) (text?_text _)
  have hoptions : optional? fields "options" [] (listOf? Choice.ofDocument?) = pure choices :=
    optional?_listed (by simp [← hf, Output.fields]; rfl) fun c _ => c.ofDocument?_reread
  rw [hnode, pure_bind, htext, pure_bind, hoptions, pure_bind]

theorem typingOutput?_fields (node : String) {seconds : Binary} (h : seconds.isFinite = true) :
    typingOutput? (record (rereadFields digits (Output.typing node seconds).fields)) =
      pure (.typing node seconds) := by
  unfold typingOutput?
  rw [record?_rereadFields (by simp) (by simp [Output.fields]), pure_bind]
  generalize hf : rereadFields digits _ = fields
  have hnode : required? fields "nodeId" text? = pure node :=
    required?_eq (by simp [← hf, Output.fields]) (text?_text _)
  have hseconds : required? fields "seconds" double? = pure seconds :=
    required?_eq (by simp [← hf, Output.fields, reread_double h]) (double?_number (.double seconds))
  rw [hnode, pure_bind, hseconds, pure_bind]

theorem systemOutput?_fields (node : Option String) (t : String) :
    systemOutput? (record (rereadFields digits (Output.system node t).fields)) = pure (.system node t) := by
  unfold systemOutput?
  rw [record?_rereadFields, pure_bind]
  case hnames => simp
  case hkeys =>
    rw [Output.fields, List.map_append]
    exact (keys_given _ _).append (List.Sublist.refl _)
  generalize hf : rereadFields digits _ = fields
  have hnode : optional? fields "nodeId" none (nullable? text?) = pure node :=
    optional?_given (by simp [← hf, Output.fields]; rfl) fun n _ => ⟨rfl, text?_text n⟩
  have htext : required? fields "text" text? = pure t := required?_eq (by simp [← hf, Output.fields]) (text?_text _)
  rw [hnode, pure_bind, htext, pure_bind]

theorem Output.ofDocument?_reread {o : Output} (h : o.Writable) :
    Output.ofDocument? (reread digits o.toDocument) = pure o := by
  have htag : "type" ∉ o.fields.map (·.1) := fun h => by simpa using o.keys_fields.subset h
  unfold Output.ofDocument?
  rw [o.toDocument_eq, variant?_reread htag, pure_bind]
  cases o with
  | message node t =>
    show nodeText? _ >>= _ = _
    rw [fields, nodeText?_fields, pure_bind]
  | question node t choices => exact questionOutput?_fields node t choices
  | transfer node t =>
    show nodeText? _ >>= _ = _
    rw [fields, nodeText?_fields, pure_bind]
  | typing node seconds => exact typingOutput?_fields node h
  | system node t => exact systemOutput?_fields node t

/-! ## Terminations -/

/-- The budget of a termination can be written. -/
def Termination.Writable : Termination → Prop
  | .budgetExceeded budget => budget ≤ maxInteger
  | _ => True

/-- The fields of a termination behind its word. -/
def Termination.fields : Termination → List (String × Document)
  | .budgetExceeded budget => [("budget", nat budget)]
  | _ => []

theorem Termination.toDocument_eq (t : Termination) :
    t.toDocument = record (("kind", text t.word) :: t.fields) := by
  cases t <;> rfl

theorem budget?_fields {budget : Nat} (h : budget ≤ maxInteger) :
    budget? (record (rereadFields digits (Termination.budgetExceeded budget).fields)) = pure budget := by
  unfold budget?
  rw [record?_rereadFields (by simp) (by simp [Termination.fields]), pure_bind]
  exact required?_eq (by simp [Termination.fields]) (natural?_nat h)

theorem Termination.ofDocument?_reread {t : Termination} (h : t.Writable) :
    Termination.ofDocument? (reread digits t.toDocument) = pure t := by
  have htag : "kind" ∉ t.fields.map (·.1) := by cases t <;> simp [fields]
  unfold Termination.ofDocument?
  rw [t.toDocument_eq, variant?_reread htag, pure_bind]
  cases t with
  | budgetExceeded budget => exact made_of (budget?_fields h) budgetExceeded
  | _ => rfl

/-! ## Requests and responses -/

/-- The body and the time limit of a call can be written. -/
structure WebhookRequest.Writable (r : WebhookRequest) : Prop where
  body : ∀ v ∈ r.body, v.WellFormed ∧ v ≠ .null
  timeoutMs : r.timeoutMs ≤ maxInteger

theorem WebhookRequest.ofDocument?_reread {r : WebhookRequest} (h : r.Writable) :
    WebhookRequest.ofDocument? (reread digits r.toDocument) = pure r := by
  unfold WebhookRequest.ofDocument? WebhookRequest.toDocument
  rw [record?_reread, pure_bind]
  case hnames => simp
  case hkeys =>
    simp only [List.map_append]
    exact ((List.Sublist.refl _).append (keys_given _ _)).append (List.Sublist.refl _)
  generalize hf : rereadFields digits _ = fields
  have hurl : required? fields "url" text? = pure r.url := required?_eq (by simp [← hf]) (text?_text _)
  have hmethod : required? fields "method" text? = pure r.method := required?_eq (by simp [← hf]) (text?_text _)
  have hheaders : optional? fields "headers" .empty (dictionaryOf? text?) = pure r.headers :=
    optional?_eq .empty (by simp [← hf]; rfl) (dictionaryOf?_textTable r.headers)
  have hbody : optional? fields "body" none (nullable? value?) = pure r.body :=
    body?_fields h.body (by simp [← hf]; rfl)
  have htimeout : required? fields "timeoutMs" (natural? maxInteger) = pure r.timeoutMs :=
    required?_eq (by simp [← hf]) (natural?_nat h.timeoutMs)
  rw [hurl, pure_bind, hmethod, pure_bind, hheaders, pure_bind, hbody, pure_bind, htimeout, pure_bind]

/-- The status and the body of a response can be written. -/
structure WebhookResponse.Writable (r : WebhookResponse) : Prop where
  status : r.status ≤ maxStatus
  body : r.body.WellFormed

theorem WebhookResponse.ofDocument?_reread {r : WebhookResponse} (h : r.Writable) :
    WebhookResponse.ofDocument? (reread digits r.toDocument) = pure r := by
  unfold WebhookResponse.ofDocument? WebhookResponse.toDocument
  rw [record?_reread (by simp) (by simp), pure_bind]
  generalize hf : rereadFields digits _ = fields
  have hstatus : required? fields "status" (natural? maxStatus) = pure r.status :=
    required?_eq (by simp [← hf]) (natural?_nat h.status)
  have hbody : optional? fields "body" .null value? = pure r.body :=
    optional?_eq .null (by simp [← hf, reread_ofValue h.body]) (value?_ofValue h.body)
  rw [hstatus, pure_bind, hbody, pure_bind]

/-- The numbers of a request for a generated reply can be written. -/
structure AiRequest.Writable (r : AiRequest) : Prop where
  temperature : ∀ x ∈ r.temperature, x.IsSingle
  maxTokens : ∀ n ∈ r.maxTokens, n ≤ maxTokenLimit

theorem AiRequest.ofDocument?_reread {r : AiRequest} (hd : KeepsSingles digits) (h : r.Writable) :
    AiRequest.ofDocument? (reread digits r.toDocument) = pure r := by
  unfold AiRequest.ofDocument? AiRequest.toDocument
  rw [record?_reread, pure_bind]
  case hnames => simp
  case hkeys =>
    simp only [List.map_append]
    exact (((List.Sublist.refl _).append (keys_given _ _)).append (keys_given _ _)).append (keys_given _ _)
  generalize hf : rereadFields digits _ = fields
  have hsystem : required? fields "systemPrompt" text? = pure r.system :=
    required?_eq (by simp [← hf]) (text?_text _)
  have huser : required? fields "userPrompt" text? = pure r.user := required?_eq (by simp [← hf]) (text?_text _)
  have hmodel : optional? fields "model" none (nullable? text?) = pure r.model :=
    optional?_given (by simp [← hf]; rfl) fun m _ => ⟨rfl, text?_text m⟩
  have htemperature : optional? fields "temperature" none (nullable? single?) = pure r.temperature :=
    temperature?_fields hd h.temperature (by simp [← hf])
  have htokens : optional? fields "maxTokens" none (nullable? (natural? maxTokenLimit)) = pure r.maxTokens :=
    optional?_given (by simp [← hf]; rfl) fun n hn => ⟨rfl, natural?_nat (h.maxTokens n hn)⟩
  rw [hsystem, pure_bind, huser, pure_bind, hmodel, pure_bind, htemperature, pure_bind, htokens, pure_bind]

theorem AiResponse.ofDocument?_reread (r : AiResponse) :
    AiResponse.ofDocument? (reread digits r.toDocument) = pure r := by
  unfold AiResponse.ofDocument? AiResponse.toDocument
  rw [record?_reread (by simp) (by simp), pure_bind]
  generalize hf : rereadFields digits _ = fields
  have htext : required? fields "text" text? = pure r.text := required?_eq (by simp [← hf]) (text?_text _)
  rw [htext, pure_bind]

theorem ActionRequest.ofDocument?_reread {r : ActionRequest} (h : r.payload.WellFormed) :
    ActionRequest.ofDocument? (reread digits r.toDocument) = pure r := by
  unfold ActionRequest.ofDocument? ActionRequest.toDocument
  rw [record?_reread (by simp) (by simp), pure_bind]
  generalize hf : rereadFields digits _ = fields
  have haction : required? fields "action" text? = pure r.name := required?_eq (by simp [← hf]) (text?_text _)
  have hpayload : optional? fields "payload" .null value? = pure r.payload :=
    optional?_eq .null (by simp [← hf, reread_ofValue h]) (value?_ofValue h)
  rw [haction, pure_bind, hpayload, pure_bind]

/-! ## Settings -/

/-- The numbers of the settings of the engine can be written. -/
structure Config.Writable (c : Config) : Prop where
  maxSteps : c.maxSteps ≤ maxInteger
  webhookTimeoutMs : c.webhookTimeoutMs ≤ maxInteger
  aiTimeoutMs : c.aiTimeoutMs ≤ maxInteger
  maxDelaySeconds : c.maxDelaySeconds.isFinite = true

theorem DelayPolicy.choice?_word (p : DelayPolicy) : choice? DelayPolicy.named (text p.word) = pure p := by
  cases p <;> rfl

theorem Config.ofDocument?_reread {c : Config} (h : c.Writable) :
    Config.ofDocument? (reread digits c.toDocument) = pure c := by
  unfold Config.ofDocument? Config.toDocument
  rw [record?_reread (by simp) (by simp)]
  simp only [pure_bind]
  generalize hf : rereadFields digits _ = fields
  have hsteps (default : Nat) : optional? fields "max_steps" default (natural? maxInteger) = pure c.maxSteps :=
    optional?_eq default (by simp [← hf]) (natural?_nat h.maxSteps)
  have hwebhook (default : Nat) : optional? fields "default_webhook_timeout_ms" default (natural? maxInteger) =
      pure c.webhookTimeoutMs :=
    optional?_eq default (by simp [← hf]) (natural?_nat h.webhookTimeoutMs)
  have hai (default : Nat) : optional? fields "ai_timeout_ms" default (natural? maxInteger) =
      pure c.aiTimeoutMs :=
    optional?_eq default (by simp [← hf]) (natural?_nat h.aiTimeoutMs)
  have hpolicy (default : DelayPolicy) : optional? fields "delay_policy" default (choice? DelayPolicy.named) =
      pure c.delayPolicy :=
    optional?_eq default (by simp [← hf]) c.delayPolicy.choice?_word
  have hdelay (default : Binary) : optional? fields "max_delay_seconds" default double? =
      pure c.maxDelaySeconds :=
    optional?_eq default (by simp [← hf, reread_double h.maxDelaySeconds])
      (double?_number (.double c.maxDelaySeconds))
  have hfallback (default : Option String) : optional? fields "ai_fallback_message" default (nullable? text?) =
      pure c.aiFallback :=
    optional?_eq default (by simp [← hf]) (nullable?_textOrNull _)
  rw [hsteps, pure_bind, hwebhook, pure_bind, hai, pure_bind, hpolicy, pure_bind, hdelay, pure_bind,
    hfallback, pure_bind]

theorem Settings.ofDocument?_reread {s : Settings} (h : s.engine.Writable) :
    Settings.ofDocument? (reread digits s.toDocument) = pure s := by
  unfold Settings.ofDocument? Settings.toDocument
  rw [record?_reread (by simp) (by simp), pure_bind]
  generalize hf : rereadFields digits _ = fields
  have hengine : optional? fields "engine" .default Config.ofDocument? = pure s.engine :=
    optional?_eq .default (by simp [← hf]; rfl) (Config.ofDocument?_reread h)
  rw [hengine, pure_bind]

end Dialogue
