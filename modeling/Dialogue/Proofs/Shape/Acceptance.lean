/-
Which flows are accepted when they are read again. The text may have lost what a flow needs: a delay has to be finite,
and nothing may be nested deeper than is read. That is all: a temperature that is not finite is read as none, and so is
the body of a webhook that is null, so what comes back need not be the flow that was written.
-/
import Dialogue.Proofs.Document.Nesting
import Dialogue.Proofs.Shape.Flow

namespace Dialogue

open Document Read

variable {digits : Binary → Number}

/-! ## Kinds -/

/-- What a webhook holds can be read again. -/
structure Webhook.Rereadable (w : Webhook) : Prop where
  body : ∀ v ∈ w.body, v.WellFormed
  timeoutMs : ∀ n ∈ w.timeoutMs, n ≤ maxInteger

/-- What a kind of node holds can be read again, except perhaps a delay that is not finite. -/
def NodeKind.Rereadable : NodeKind → Prop
  | .action a => a.payload.WellFormed
  | .webhook w => w.Rereadable
  | .aiResponse p => ∀ n ∈ p.maxTokens, n ≤ maxTokenLimit
  | _ => True

/-- Whether a kind is no delay, or one that is finite. -/
def NodeKind.hasFiniteDelay : NodeKind → Bool
  | .delay d => d.seconds.isFinite
  | _ => true

/-- A body that is null is read as none. -/
theorem Webhook.exists_body {w : Webhook} (h : ∀ v ∈ w.body, v.WellFormed) :
    ∃ body, optional? (rereadFields digits w.fields) "body" none (nullable? value?) = pure body := by
  by_cases hnull : w.body = some .null
  · refine ⟨none, optional?_eq none (w.find?_body.trans ?_) (d := Document.null) rfl⟩
    rw [hnull]
    rfl
  · refine ⟨w.body, body?_fields (fun v hv => ⟨h v hv, ?_⟩) w.find?_body⟩
    rintro rfl
    exact hnull hv

/-- A temperature that is not finite is read as none. -/
theorem Prompt.exists_temperature (p : Prompt) :
    ∃ t, optional? (rereadFields digits p.fields) "temperature" none (nullable? single?) = pure t := by
  have hfield := @Prompt.find?_temperature digits p
  cases ht : p.temperature with
  | none =>
    rw [ht] at hfield
    exact ⟨none, optional?_default hfield rfl⟩
  | some x =>
    rw [ht] at hfield
    cases hfinite : x.isFinite with
    | true =>
      rw [Option.map_some, Option.map_some, single, reread_single hfinite] at hfield
      exact ⟨_, optional?_eq none hfield (nullable?_of_isPresent rfl (single?_number (digits x)))⟩
    | false =>
      refine ⟨none, optional?_eq none (hfield.trans ?_) (d := Document.null) rfl⟩
      cases x with
      | finite s m e => cases hfinite
      | _ => rfl

theorem Delay.finds_ofDocument? {d : Delay} (h : Finds (Delay.ofDocument? (record (rereadFields digits d.fields)))) :
    d.seconds.isFinite = true := by
  unfold Delay.ofDocument? at h
  rw [record?_rereadFields (by simp) (by simp [Delay.fields]), pure_bind,
    optional?_of_some (d := reread digits (number (.double d.seconds))) _ (by simp [Delay.fields])] at h
  cases hs : d.seconds with
  | finite s m e => rfl
  | _ =>
    rw [hs] at h
    exact absurd h.of_bind.1 not_finds_failure

theorem NodeKind.finiteDelay_of_finds {k : NodeKind}
    (h : Finds (NodeKind.ofDocument? k.name (record (rereadFields digits k.fields)))) : k.hasFiniteDelay = true := by
  cases k with
  | delay d =>
    have hread : Finds (do return NodeKind.delay (← Delay.ofDocument? (record (rereadFields digits d.fields)))) := h
    exact Delay.finds_ofDocument? hread.of_bind.1
  | _ => rfl

theorem NodeKind.exists_ofDocument? {k : NodeKind} (h : k.Rereadable) (hdelay : k.hasFiniteDelay = true) :
    ∃ k', NodeKind.ofDocument? k.name (record (rereadFields digits k.fields)) = pure k' := by
  cases k with
  | trigger => exact ⟨_, rfl⟩
  | message content => exact ⟨_, made_of (content?_fields content) NodeKind.message⟩
  | question q => exact ⟨_, made_of q.ofDocument?_fields NodeKind.question⟩
  | condition branches => exact ⟨_, made_of (branches?_fields branches) NodeKind.condition⟩
  | action a => exact ⟨_, made_of (Action.ofDocument?_fields h) NodeKind.action⟩
  | webhook w =>
    obtain ⟨body, hbody⟩ := Webhook.exists_body h.body
    exact ⟨_, made_of (Webhook.ofDocument?_fields_body hbody h.timeoutMs) NodeKind.webhook⟩
  | aiResponse p =>
    obtain ⟨temperature, htemperature⟩ := p.exists_temperature
    exact ⟨_, made_of (Prompt.ofDocument?_fields_temperature htemperature h) NodeKind.aiResponse⟩
  | delay d => exact ⟨_, made_of (Delay.ofDocument?_fields hdelay) NodeKind.delay⟩
  | transfer content => exact ⟨_, made_of (content?_fields content) NodeKind.transfer⟩
  | finish => exact ⟨_, rfl⟩

/-! ## Nodes -/

theorem Node.finiteDelay_of_finds {n : Node} (h : Finds (Node.ofDocument? (reread digits n.toDocument))) :
    n.kind.hasFiniteDelay = true := by
  rw [Node.ofDocument?_reread_kind] at h
  exact NodeKind.finiteDelay_of_finds h.of_bind.1

theorem Node.exists_ofDocument? {n : Node} (h : n.kind.Rereadable) (hdelay : n.kind.hasFiniteDelay = true) :
    ∃ n', Node.ofDocument? (reread digits n.toDocument) = pure n' := by
  obtain ⟨k, hk⟩ := @NodeKind.exists_ofDocument? digits _ h hdelay
  exact ⟨⟨n.id, n.label, k⟩, by rw [Node.ofDocument?_reread_kind, hk, pure_bind]⟩

/-- Whatever is neither id nor label of a node has to be settled, even if the node's kind does not know it. -/
theorem Node.finds_settle {fields : List (String × Document)} (h : Finds (Node.ofDocument? (record fields))) :
    ∀ f ∈ fields, f.1 ≠ "id" → f.1 ≠ "label" → Finds f.2.settle := by
  have hread : Finds (named? (fields.map fun f => (text f.1, f.2)) >>= fun fields => do
      let id ← (← documentAt? "id" fields).text?
      let label ← label? fields
      let kind ← NodeKind.ofFields? (fields.filter fun f => f.1 != "id" && f.1 != "label")
      return (⟨id, label, kind⟩ : Node)) := h
  rw [named?_fields, pure_bind] at hread
  obtain ⟨_, _, hread⟩ := hread.of_bind
  obtain ⟨_, _, hread⟩ := hread.of_bind
  obtain ⟨_, _, hread⟩ := hread.of_bind
  have hsettled := hread.of_bind.1.of_bind.1.of_mapM
  intro f hf hid hlabel
  exact (hsettled f (List.mem_filter.2 ⟨hf, by simp [hid, hlabel]⟩)).of_bind.1

theorem nesting_text (s : String) (n : Nat) : (text s).nesting ≤ n := Nat.zero_le n

/-- A node is read of its capped document only if it was not nested too deep. -/
theorem Node.nesting_le_of_finds {n : Node} {depth : Nat}
    (h : Finds (Node.ofDocument? ((reread digits n.toDocument).capped (depth + 1)))) :
    (reread digits n.toDocument).nesting ≤ depth + 1 := by
  have hdocument : reread digits n.toDocument =
      record ([("id", text n.id)] ++ given "label" (n.label.map text) ++ n.kind.tagged digits) := by
    cases hl : n.label <;> simp [Node.toDocument, NodeKind.tagged, hl]
  rw [hdocument, capped_record] at h
  rw [hdocument, nesting_record_le_iff]
  have hsettle := Node.finds_settle h
  intro f hf
  rcases List.mem_append.1 hf with hown | hkind
  · rcases List.mem_append.1 hown with hid | hlabel
    · rw [List.mem_singleton.1 hid]
      exact nesting_text n.id depth
    · cases hl : n.label with
      | none =>
        rw [hl] at hlabel
        exact absurd hlabel List.not_mem_nil
      | some l =>
        rw [hl] at hlabel
        rw [show f = ("label", text l) from List.mem_singleton.1 hlabel]
        exact nesting_text l depth
  · have hname (name : String) (hname : name ∈ Node.ownNames) (htype : name ≠ "type") : f.1 ≠ name := by
      rcases List.mem_append.1 hkind with htag | hkind
      · rw [List.mem_singleton.1 htag]
        exact htype.symm
      · exact NodeKind.ne_of_mem_fields hkind hname
    refine nesting_le_of_settle f.2 depth (hsettle (f.1, f.2.capped depth) (List.mem_map_of_mem hf) ?_ ?_)
    · exact hname "id" (by simp [Node.ownNames]) (by decide)
    · exact hname "label" (by simp [Node.ownNames]) (by decide)

/-! ## Flows -/

/-- What the nodes and the defaults of a flow hold can be read again. -/
structure Flow.Rereadable (f : Flow) : Prop where
  nodes : ∀ n ∈ f.nodes, n.kind.Rereadable
  defaults : f.defaults.WellFormed

/-- Every delay of the flow is finite. -/
def Flow.FiniteDelays (f : Flow) : Prop := ∀ n ∈ f.nodes, n.kind.hasFiniteDelay = true

instance (f : Flow) : Decidable f.FiniteDelays :=
  inferInstanceAs (Decidable (∀ n ∈ f.nodes, n.kind.hasFiniteDelay = true))

theorem Flow.finds_parts {f : Flow} {connections trigger : Document}
    (hc : listOf? Connection.ofDocument? connections = pure f.connections)
    (ht : TriggerConfig.ofDocument? trigger = pure f.trigger) {nodes : List Document} {defaults : Document}
    (h : Finds (Flow.ofDocument? (record (f.fieldsOf nodes connections trigger defaults)))) :
    (∀ d ∈ nodes, Finds (Node.ofDocument? d)) ∧ Finds (variables? defaults) := by
  rw [Flow.ofDocument?_fieldsOf hc ht] at h
  obtain ⟨hnodes, _, h⟩ := h.of_bind
  exact ⟨hnodes.of_mapM, h.of_bind.1⟩

theorem Flow.finiteDelays_of_finds {f : Flow} (h : Finds (Flow.ofDocument? (reread digits f.toDocument))) :
    f.FiniteDelays := by
  rw [Flow.reread_toDocument] at h
  obtain ⟨hnodes, -⟩ := Flow.finds_parts (listOf?_items fun c _ => c.ofDocument?_reread) f.trigger.ofDocument?_reread h
  exact fun n hn => Node.finiteDelay_of_finds (hnodes _ (List.mem_map_of_mem hn))

theorem Flow.exists_ofDocument? {f : Flow} (h : f.Rereadable) (hdelays : f.FiniteDelays) :
    ∃ g, Flow.ofDocument? (reread digits f.toDocument) = pure g := by
  obtain ⟨nodes, hnodes⟩ : ∃ nodes, (f.nodes.map fun n => reread digits n.toDocument).mapM Node.ofDocument? =
      pure nodes := by
    refine exists_mapM (List.forall_mem_map.2 fun n hn => ?_)
    exact Node.exists_ofDocument? (h.nodes n hn) (hdelays n hn)
  rw [Flow.reread_toDocument, Flow.ofDocument?_fieldsOf (listOf?_items fun c _ => c.ofDocument?_reread)
    f.trigger.ofDocument?_reread, hnodes, pure_bind, reread_variablesDocument h.defaults,
    variables?_variablesDocument h.defaults, pure_bind]
  exact ⟨_, rfl⟩

theorem nesting_connections_le (cs : List Connection) (depth : Nat) :
    (items (cs.map fun c => reread digits c.toDocument)).nesting ≤ depth + 2 := by
  refine nesting_items_le_iff.2 (List.forall_mem_map.2 fun c _ => ?_)
  cases hl : c.label <;> simp [Connection.toDocument, hl, nesting_record_le_iff, nesting_text, given]

theorem nesting_trigger_le (t : TriggerConfig) (depth : Nat) : (reread digits t.toDocument).nesting ≤ depth + 2 := by
  rw [TriggerConfig.toDocument, reread_record, rereadFields_append, rereadFields_listed, nesting_record_le_iff,
    List.forall_mem_append]
  refine ⟨List.forall_mem_singleton.2 (nesting_text t.kind.name _), ?_⟩
  unfold listed
  split
  · exact fun f hf => absurd hf List.not_mem_nil
  · refine List.forall_mem_singleton.2 (nesting_items_le_iff.2 ?_)
    rw [List.map_map]
    exact List.forall_mem_map.2 fun k _ => nesting_text k depth

theorem nesting_variables_le_of_finds {vars : Variables} {depth : Nat}
    (h : Finds (variables? ((variablesDocument vars).capped (depth + 1)))) :
    (variablesDocument vars).nesting ≤ depth + 1 := by
  have hdocument : variablesDocument vars = record (vars.entries.map fun e => (e.1, ofValue e.2)) := by
    rw [variablesDocument, ofFields_eq, record, List.map_map]
    rfl
  rw [hdocument, capped_record, List.map_map] at h
  rw [hdocument, nesting_record_le_iff]
  unfold variables? dictionaryOf? at h
  rw [content_record, pure_bind, record, List.map_map] at h
  have hentries := h.of_bind.1.of_mapM
  refine List.forall_mem_map.2 fun e he => nesting_ofValue_le e.2 depth ?_
  obtain ⟨_, _, hvalue⟩ := (hentries _ (List.mem_map_of_mem he)).of_bind
  exact hvalue.of_bind.1

theorem Flow.capped_fieldsOf (f : Flow) (nodes : List Document) (connections trigger defaults : Document) (n : Nat) :
    (record (f.fieldsOf nodes connections trigger defaults)).capped (n + 2) =
      record (f.fieldsOf (nodes.map (capped n)) (connections.capped (n + 1)) (trigger.capped (n + 1))
        (defaults.capped (n + 1))) := by
  rw [capped_record]
  cases hn : f.name <;> simp [fieldsOf, hn, given, capped_items] <;> rfl

/-- A flow is read of its capped document only if it was not nested too deep. -/
theorem Flow.nesting_le_of_finds {f : Flow} (hdefaults : f.defaults.WellFormed) {depth : Nat}
    (h : Finds (Flow.ofDocument? ((reread digits f.toDocument).capped (depth + 3)))) :
    (reread digits f.toDocument).nesting ≤ depth + 3 := by
  rw [Flow.reread_toDocument, reread_variablesDocument hdefaults] at h ⊢
  rw [Flow.capped_fieldsOf, capped_of_nesting_le _ _ (nesting_connections_le f.connections depth),
    capped_of_nesting_le _ _ (nesting_trigger_le f.trigger depth)] at h
  obtain ⟨hnodes, hvars⟩ :=
    Flow.finds_parts (listOf?_items fun c _ => c.ofDocument?_reread) f.trigger.ofDocument?_reread h
  have hnode (n : Node) (hn : n ∈ f.nodes) : (reread digits n.toDocument).nesting ≤ depth + 1 :=
    Node.nesting_le_of_finds (hnodes _ (List.mem_map_of_mem (List.mem_map_of_mem hn)))
  have hname : ∀ field ∈ given "name" (f.name.map text), field.2.nesting ≤ depth + 2 := by
    cases f.name with
    | none => exact fun field hfield => absurd hfield List.not_mem_nil
    | some name => exact List.forall_mem_singleton.2 (nesting_text name _)
  rw [nesting_record_le_iff]
  simp only [fieldsOf, List.forall_mem_append, List.forall_mem_cons]
  have hnil : ∀ field ∈ ([] : List (String × Document)), field.2.nesting ≤ depth + 2 :=
    fun field hfield => absurd hfield List.not_mem_nil
  exact ⟨⟨⟨nesting_text f.id _, nesting_text f.slug _, hnil⟩, hname⟩,
    nesting_items_le_iff.2 (List.forall_mem_map.2 hnode), nesting_connections_le f.connections depth,
    nesting_trigger_le f.trigger depth, nesting_variables_le_of_finds hvars, hnil⟩

end Dialogue
