/-
Nodes that are written and read again. Every reader of this part of the format gives back what was written,
whatever a document loses on its way through text, as long as numbers are finite and in range and a webhook
has no body that is null.

The fields of a kind are read by the kind's own reader, in which a field that was left out has the default for
which it was left out. None of them has a name that the node itself uses, so a node can be told from its table.
-/
import Dialogue.Proofs.Document.Readers
import Dialogue.Shape.Node

namespace Dialogue

open Document

/-! ## What can be written -/

/-- A finite number of single precision. -/
def Binary.IsSingle (x : Binary) : Prop := x.isFinite = true ∧ x.toFormat .single = x

/-- The digits of a single write a number to which no other single is as near. -/
def Document.KeepsSingles (digits : Binary → Number) : Prop := ∀ x : Binary, x.IsSingle → (digits x).toSingle = x

/-- The body and the time limit of a webhook can be written. -/
structure Webhook.Writable (w : Webhook) : Prop where
  body : ∀ v ∈ w.body, v.WellFormed ∧ v ≠ .null
  timeoutMs : ∀ n ∈ w.timeoutMs, n ≤ maxInteger

/-- The numbers of a prompt can be written. -/
structure Prompt.Writable (p : Prompt) : Prop where
  temperature : ∀ x ∈ p.temperature, x.IsSingle
  maxTokens : ∀ n ∈ p.maxTokens, n ≤ maxTokenLimit

/-- What a kind of node holds can be written. -/
def NodeKind.Writable : NodeKind → Prop
  | .action a => a.payload.WellFormed
  | .webhook w => w.Writable
  | .aiResponse p => p.Writable
  | .delay d => d.seconds.isFinite = true
  | _ => True

/-! ## The names of fields -/

theorem Question.keys_fields (q : Question) :
    (q.fields.map (·.1)).Sublist ["content", "variable", "options"] := by
  rw [Question.fields, List.map_append]
  exact (List.Sublist.refl _).append (keys_listed _ _)

theorem Webhook.keys_fields (w : Webhook) :
    (w.fields.map (·.1)).Sublist ["url", "method", "headers", "body", "timeoutMs", "variable"] := by
  simp only [Webhook.fields, List.map_append]
  exact ((((List.Sublist.refl _).append (keys_given _ _)).append (keys_given _ _)).append
    (keys_given _ _)).append (List.Sublist.refl _)

theorem Prompt.keys_fields (p : Prompt) :
    (p.fields.map (·.1)).Sublist
      ["systemPrompt", "userPrompt", "model", "temperature", "maxTokens", "variable"] := by
  simp only [Prompt.fields, List.map_append]
  exact ((((List.Sublist.refl _).append (keys_given _ _)).append (keys_given _ _)).append
    (keys_given _ _)).append (List.Sublist.refl _)

/-- The names that a node itself uses. -/
def Node.ownNames : List String := ["id", "label", "type"]

/-- No field of a kind has a name that the node itself uses. -/
theorem NodeKind.not_mem_ownNames (k : NodeKind) : ∀ name ∈ k.fields.map (·.1), name ∉ Node.ownNames := by
  have hown {names : List String} (hkeys : (k.fields.map (·.1)).Sublist names)
      (hnames : ∀ name ∈ names, name ∉ Node.ownNames) : ∀ name ∈ k.fields.map (·.1), name ∉ Node.ownNames :=
    fun name h => hnames name (hkeys.subset h)
  cases k with
  | question q => exact hown q.keys_fields (by simp [Node.ownNames])
  | webhook w => exact hown w.keys_fields (by simp [Node.ownNames])
  | aiResponse p => exact hown p.keys_fields (by simp [Node.ownNames])
  | _ => simp [fields, contentField, Action.fields, Delay.fields, Node.ownNames]

section

variable {digits : Binary → Number}

/-! ## Choices and branches -/

theorem Choice.ofDocument?_reread (c : Choice) : Choice.ofDocument? (reread digits c.toDocument) = pure c := by
  unfold Choice.ofDocument? Choice.toDocument
  rw [record?_reread (by simp) (by simp), pure_bind]
  generalize hf : rereadFields digits _ = fields
  have hlabel : required? fields "label" text? = pure c.label := required?_eq (by simp [← hf]) (text?_text _)
  have hvalue : optional? fields "value" "" text? = pure c.value := optional?_eq "" (by simp [← hf]) (text?_text _)
  rw [hlabel, pure_bind, hvalue, pure_bind]

/-- A branch that is always taken is written without an expression, and so is read as one. -/
theorem Branch.ofDocument?_reread (b : Branch) : Branch.ofDocument? (reread digits b.toDocument) = pure b := by
  unfold Branch.ofDocument? Branch.toDocument
  cases b with
  | when expression target =>
    rw [record?_reread (by simp) (by simp), pure_bind]
    generalize hf : rereadFields digits _ = fields
    have hif : optional? fields "if" none (nullable? text?) = pure (some expression) :=
      optional?_eq none (by simp [← hf]) (nullable?_of_isPresent rfl (text?_text _))
    have helse : optional? fields "else" false bool? = pure false :=
      optional?_default (by simp [← hf]) rfl
    have hgoto : optional? fields "goto" "" text? = pure target := optional?_eq "" (by simp [← hf]) (text?_text _)
    rw [hif, pure_bind, helse, pure_bind, hgoto, pure_bind]
    rfl
  | otherwise target =>
    rw [record?_reread (by simp) (by simp), pure_bind]
    generalize hf : rereadFields digits _ = fields
    have hif : optional? fields "if" none (nullable? text?) = pure none := optional?_default (by simp [← hf]) rfl
    have helse : optional? fields "else" false bool? = pure true :=
      optional?_eq false (by simp [← hf]) (bool?_bool _)
    have hgoto : optional? fields "goto" "" text? = pure target := optional?_eq "" (by simp [← hf]) (text?_text _)
    rw [hif, pure_bind, helse, pure_bind, hgoto, pure_bind]
    rfl

/-! ## The fields of the kinds -/

theorem content?_fields (content : String) :
    content? (record (rereadFields digits (contentField content))) = pure content := by
  unfold content?
  rw [record?_rereadFields (by simp) (by simp [contentField]), pure_bind]
  exact optional?_eq "" (by simp [contentField]) (text?_text content)

theorem Question.ofDocument?_fields (q : Question) :
    Question.ofDocument? (record (rereadFields digits q.fields)) = pure q := by
  unfold Question.ofDocument?
  rw [record?_rereadFields (by simp) q.keys_fields, pure_bind]
  generalize hf : rereadFields digits _ = fields
  have hcontent : optional? fields "content" "" text? = pure q.content :=
    optional?_eq "" (by simp [← hf, Question.fields]) (text?_text _)
  have hvariable : optional? fields "variable" "" text? = pure q.variableName :=
    optional?_eq "" (by simp [← hf, Question.fields]) (text?_text _)
  have hoptions : optional? fields "options" [] (listOf? Choice.ofDocument?) = pure q.choices :=
    optional?_listed (by simp [← hf, Question.fields]; rfl) fun c _ => c.ofDocument?_reread
  rw [hcontent, pure_bind, hvariable, pure_bind, hoptions, pure_bind]

theorem branches?_fields (branches : List Branch) :
    branches? (record (rereadFields digits (NodeKind.condition branches).fields)) = pure branches := by
  unfold branches?
  rw [record?_rereadFields (by simp) (by simp [NodeKind.fields]), pure_bind]
  refine optional?_eq [] (by simp [NodeKind.fields]; rfl) ?_
  exact listOf?_items fun b _ => b.ofDocument?_reread

theorem Action.ofDocument?_fields {a : Action} (h : a.payload.WellFormed) :
    Action.ofDocument? (record (rereadFields digits a.fields)) = pure a := by
  unfold Action.ofDocument?
  rw [record?_rereadFields (by simp) (by simp [Action.fields]), pure_bind]
  generalize hf : rereadFields digits _ = fields
  have haction : required? fields "action" text? = pure a.name :=
    required?_eq (by simp [← hf, Action.fields]) (text?_text _)
  have hpayload : optional? fields "payload" .null value? = pure a.payload :=
    optional?_eq .null (by simp [← hf, Action.fields, reread_ofValue h]) (value?_ofValue h)
  rw [haction, pure_bind, hpayload, pure_bind]

theorem dictionaryOf?_textTable (dictionary : Dictionary String) :
    dictionaryOf? text? (reread digits (textTable dictionary)) = pure dictionary := by
  have hsame : reread digits (textTable dictionary) = textTable dictionary := by
    simp [textTable, rereadFields, Function.comp_def]
  rw [hsame]
  exact dictionaryOf?_record fun e _ => text?_text e.2

theorem headers?_fields {fields : List (String × Document)} {headers : Dictionary String}
    (hf : Entries.find? "headers" fields =
      (if headers.isEmpty then none else some (textTable headers)).map (reread digits)) :
    optional? fields "headers" .empty (dictionaryOf? text?) = pure headers := by
  obtain ⟨_ | ⟨e, rest⟩, ho⟩ := headers
  · exact optional?_default hf rfl
  · exact optional?_eq .empty hf (dictionaryOf?_textTable ⟨e :: rest, ho⟩)

theorem isPresent_ofValue {v : Value} (h : v ≠ .null) : isPresent (ofValue v) = true := by
  cases v <;> first | rfl | exact absurd rfl h

theorem body?_fields {fields : List (String × Document)} {body : Option Value}
    (h : ∀ v ∈ body, v.WellFormed ∧ v ≠ .null)
    (hf : Entries.find? "body" fields = (body.map ofValue).map (reread digits)) :
    optional? fields "body" none (nullable? value?) = pure body := by
  -- a body that is null would be read as no body at all
  refine optional?_given (hf.trans ?_) fun v hv => ⟨isPresent_ofValue (h v hv).2, value?_ofValue (h v hv).1⟩
  cases body with
  | none => rfl
  | some v => exact congrArg some (reread_ofValue (h v rfl).1)

/-- A webhook is read with whatever is read as its body. -/
theorem Webhook.ofDocument?_fields_body {w : Webhook} {body : Option Value}
    (hbody : optional? (rereadFields digits w.fields) "body" none (nullable? value?) = pure body)
    (htime : ∀ n ∈ w.timeoutMs, n ≤ maxInteger) :
    Webhook.ofDocument? (record (rereadFields digits w.fields)) = pure { w with body := body } := by
  unfold Webhook.ofDocument?
  rw [record?_rereadFields (by simp) w.keys_fields, pure_bind]
  generalize hf : rereadFields digits _ = fields at hbody ⊢
  have hurl : required? fields "url" text? = pure w.url :=
    required?_eq (by simp [← hf, Webhook.fields]) (text?_text _)
  have hmethod : optional? fields "method" "GET" text? = pure w.method :=
    optional?_eq "GET" (by simp [← hf, Webhook.fields]) (text?_text _)
  have hheaders : optional? fields "headers" .empty (dictionaryOf? text?) = pure w.headers :=
    headers?_fields (by simp [← hf, Webhook.fields]; rfl)
  have htimeout : optional? fields "timeoutMs" none (nullable? (natural? maxInteger)) = pure w.timeoutMs :=
    optional?_given (by simp [← hf, Webhook.fields]; rfl) fun n hn => ⟨rfl, natural?_nat (htime n hn)⟩
  have hvariable : optional? fields "variable" "" text? = pure w.variableName :=
    optional?_eq "" (by simp [← hf, Webhook.fields]) (text?_text _)
  rw [hurl, pure_bind, hmethod, pure_bind, hheaders, pure_bind, hbody, pure_bind, htimeout, pure_bind,
    hvariable, pure_bind]

theorem Webhook.find?_body (w : Webhook) :
    Entries.find? "body" (rereadFields digits w.fields) = (w.body.map ofValue).map (reread digits) := by
  simp [Webhook.fields]

theorem Webhook.ofDocument?_fields {w : Webhook} (h : w.Writable) :
    Webhook.ofDocument? (record (rereadFields digits w.fields)) = pure w :=
  Webhook.ofDocument?_fields_body (body?_fields h.body w.find?_body) h.timeoutMs

/-- A single comes back although its digits are read as a number of another kind. -/
theorem temperature?_fields {fields : List (String × Document)} {temperature : Option Binary}
    (hd : KeepsSingles digits) (h : ∀ x ∈ temperature, x.IsSingle)
    (hf : Entries.find? "temperature" fields = (temperature.map single).map (reread digits)) :
    optional? fields "temperature" none (nullable? single?) = pure temperature := by
  have hwrite : (temperature.map single).map (reread digits) = temperature.map fun x => number (digits x) := by
    cases temperature with
    | none => rfl
    | some x => exact congrArg some (reread_single (h x rfl).1)
  refine optional?_given (hf.trans hwrite) fun x hx => ⟨rfl, ?_⟩
  rw [single?_number, hd x (h x hx)]

/-- A prompt is read with whatever is read as its temperature. -/
theorem Prompt.ofDocument?_fields_temperature {p : Prompt} {temperature : Option Binary}
    (htemperature : optional? (rereadFields digits p.fields) "temperature" none (nullable? single?) = pure temperature)
    (hlimit : ∀ n ∈ p.maxTokens, n ≤ maxTokenLimit) :
    Prompt.ofDocument? (record (rereadFields digits p.fields)) = pure { p with temperature := temperature } := by
  unfold Prompt.ofDocument?
  rw [record?_rereadFields (by simp) p.keys_fields, pure_bind]
  generalize hf : rereadFields digits _ = fields at htemperature ⊢
  have hsystem : optional? fields "systemPrompt" "" text? = pure p.system :=
    optional?_eq "" (by simp [← hf, Prompt.fields]) (text?_text _)
  have huser : optional? fields "userPrompt" "" text? = pure p.user :=
    optional?_eq "" (by simp [← hf, Prompt.fields]) (text?_text _)
  have hmodel : optional? fields "model" none (nullable? text?) = pure p.model :=
    optional?_given (by simp [← hf, Prompt.fields]; rfl) fun m _ => ⟨rfl, text?_text m⟩
  have htokens : optional? fields "maxTokens" none (nullable? (natural? maxTokenLimit)) = pure p.maxTokens :=
    optional?_given (by simp [← hf, Prompt.fields]; rfl) fun n hn => ⟨rfl, natural?_nat (hlimit n hn)⟩
  have hvariable : optional? fields "variable" "" text? = pure p.variableName :=
    optional?_eq "" (by simp [← hf, Prompt.fields]) (text?_text _)
  rw [hsystem, pure_bind, huser, pure_bind, hmodel, pure_bind, htemperature, pure_bind, htokens, pure_bind,
    hvariable, pure_bind]

theorem Prompt.find?_temperature (p : Prompt) :
    Entries.find? "temperature" (rereadFields digits p.fields) = (p.temperature.map single).map (reread digits) := by
  simp [Prompt.fields]

theorem Prompt.ofDocument?_fields {p : Prompt} (hd : KeepsSingles digits) (h : p.Writable) :
    Prompt.ofDocument? (record (rereadFields digits p.fields)) = pure p :=
  Prompt.ofDocument?_fields_temperature (temperature?_fields hd h.temperature p.find?_temperature) h.maxTokens

theorem Delay.ofDocument?_fields {d : Delay} (h : d.seconds.isFinite = true) :
    Delay.ofDocument? (record (rereadFields digits d.fields)) = pure d := by
  unfold Delay.ofDocument?
  rw [record?_rereadFields (by simp) (by simp [Delay.fields]), pure_bind]
  generalize hf : rereadFields digits _ = fields
  have hseconds : optional? fields "seconds" (.zero .double) double? = pure d.seconds :=
    optional?_eq (.zero .double) (by simp [← hf, Delay.fields, reread_double h])
      (double?_number (.double d.seconds))
  have htyping : optional? fields "typingIndicator" false bool? = pure d.typing :=
    optional?_eq false (by simp [← hf, Delay.fields]) (bool?_bool _)
  rw [hseconds, pure_bind, htyping, pure_bind]

/-! ## Kinds and nodes -/

theorem NodeKind.ofDocument?_fields {k : NodeKind} (hd : KeepsSingles digits) (h : k.Writable) :
    NodeKind.ofDocument? k.name (record (rereadFields digits k.fields)) = pure k := by
  cases k with
  | trigger => rfl
  | message content => exact made_of (content?_fields content) NodeKind.message
  | question q => exact made_of q.ofDocument?_fields NodeKind.question
  | condition branches => exact made_of (branches?_fields branches) NodeKind.condition
  | action a => exact made_of (Action.ofDocument?_fields h) NodeKind.action
  | webhook w => exact made_of (Webhook.ofDocument?_fields h) NodeKind.webhook
  | aiResponse p => exact made_of (Prompt.ofDocument?_fields hd h) NodeKind.aiResponse
  | delay d => exact made_of (Delay.ofDocument?_fields h) NodeKind.delay
  | transfer content => exact made_of (content?_fields content) NodeKind.transfer
  | finish => rfl

theorem NodeKind.ne_of_mem_fields {k : NodeKind} {f : String × Document} (hf : f ∈ rereadFields digits k.fields)
    {name : String} (h : name ∈ Node.ownNames) : f.1 ≠ name := by
  intro heq
  refine k.not_mem_ownNames f.1 ?_ (heq ▸ h)
  rw [← keys_rereadFields]
  exact List.mem_map_of_mem hf

/-- Under a name of its own a node has nothing but what it wrote there itself. -/
theorem documentsAt_own {name : String} (h : name ∈ Node.ownNames) (own : List (String × Document))
    (k : NodeKind) : documentsAt name (own ++ rereadFields digits k.fields) = documentsAt name own := by
  have hkind : (rereadFields digits k.fields).filter (·.1 == name) = [] :=
    List.filter_eq_nil_iff.2 fun f hf => by simpa using NodeKind.ne_of_mem_fields hf h
  unfold documentsAt
  rw [List.filter_append, hkind, List.append_nil]

/-- The fields from which a node's kind is read: the name of the kind and the kind's own. -/
def NodeKind.tagged (digits : Binary → Number) (k : NodeKind) : List (String × Document) :=
  [("type", text k.name)] ++ rereadFields digits k.fields

theorem NodeKind.settle_tagged (k : NodeKind) : ∀ f ∈ k.tagged digits, f.2.settle = pure f.2 := by
  intro f hf
  rcases List.mem_append.1 hf with hf | hf
  · rw [List.mem_singleton.1 hf]
    rfl
  · obtain ⟨g, _, rfl⟩ := List.mem_map.1 hf
    exact settle_reread g.2

/-- The kind is read from what is left of a table without the node's id and label. -/
theorem NodeKind.ofFields?_tagged (k : NodeKind) :
    NodeKind.ofFields? (k.tagged digits) = NodeKind.ofDocument? k.name (record (rereadFields digits k.fields)) := by
  have hsettled : (k.tagged digits).mapM (fun (f : String × Document) => do return (f.1, ← f.2.settle)) =
      pure (k.tagged digits) :=
    mapM_same fun f hf => made_of (k.settle_tagged f hf) (f.1, ·)
  have htype : documentAt? "type" (k.tagged digits) = pure (text k.name) := by
    unfold documentAt? tagged
    rw [documentsAt_own (by simp [Node.ownNames])]
    rfl
  have hrest : (k.tagged digits).filter (·.1 != "type") = rereadFields digits k.fields := by
    have hother : ∀ f ∈ rereadFields digits k.fields, (f.1 != "type") = true :=
      fun f hf => by simpa using ne_of_mem_fields hf (by simp [Node.ownNames])
    rw [tagged, List.filter_append, List.filter_eq_self.2 hother]
    rfl
  have hname : NodeKind.name? (text k.name) = pure k.name := rfl
  unfold NodeKind.ofFields?
  rw [hsettled, pure_bind, htype, pure_bind, hname, pure_bind, hrest]

theorem named?_fields (fields : List (String × Document)) :
    named? (fields.map fun f => (text f.1, f.2)) = pure fields :=
  mapM_read fun f _ => made_of (text?_text f.1) (·, f.2)

/-- A node is read with whatever its kind is read as. -/
theorem Node.ofDocument?_reread_kind (n : Node) : Node.ofDocument? (reread digits n.toDocument) = do
    return ⟨n.id, n.label, ← NodeKind.ofDocument? n.kind.name (record (rereadFields digits n.kind.fields))⟩ := by
  -- the table is the node's own fields, and behind them what its kind is read from
  obtain ⟨own, hown⟩ : ∃ own, own = [("id", text n.id)] ++ given "label" (n.label.map text) := ⟨_, rfl⟩
  have hdocument : reread digits n.toDocument = record (own ++ n.kind.tagged digits) := by
    cases hl : n.label <;> simp [Node.toDocument, NodeKind.tagged, hown, hl]
  have hdocuments (name : String) (hname : name ∈ Node.ownNames) :
      documentsAt name (own ++ n.kind.tagged digits) = documentsAt name (own ++ [("type", text n.kind.name)]) := by
    rw [NodeKind.tagged, ← List.append_assoc, documentsAt_own hname]
  have hid : documentAt? "id" (own ++ n.kind.tagged digits) = pure (text n.id) := by
    unfold documentAt?
    rw [hdocuments "id" (by simp [Node.ownNames]), hown]
    cases n.label <;> rfl
  have hlabel : label? (own ++ n.kind.tagged digits) = pure n.label := by
    unfold label?
    rw [hdocuments "label" (by simp [Node.ownNames]), hown]
    cases n.label <;> rfl
  have hkind : (own ++ n.kind.tagged digits).filter (fun f => f.1 != "id" && f.1 != "label") =
      n.kind.tagged digits := by
    have hother : ∀ f ∈ rereadFields digits n.kind.fields, (f.1 != "id" && f.1 != "label") = true := by
      intro f hf
      have hne (name : String) (hname : name ∈ Node.ownNames) := NodeKind.ne_of_mem_fields hf hname
      simp [hne "id" (by simp [Node.ownNames]), hne "label" (by simp [Node.ownNames])]
    rw [NodeKind.tagged, List.filter_append, List.filter_append, List.filter_eq_self.2 hother, hown]
    cases n.label <;> rfl
  unfold Node.ofDocument?
  rw [hdocument, content_record, pure_bind]
  show named? (List.map _ _) >>= _ = _
  rw [named?_fields, pure_bind, hid, pure_bind, text?_text, pure_bind, hlabel, pure_bind, hkind,
    NodeKind.ofFields?_tagged]

theorem Node.ofDocument?_reread {n : Node} (hd : KeepsSingles digits) (h : n.kind.Writable) :
    Node.ofDocument? (reread digits n.toDocument) = pure n := by
  rw [Node.ofDocument?_reread_kind, NodeKind.ofDocument?_fields hd h, pure_bind]

end

end Dialogue
