/-
Flows that are written and read again: connections, triggers and variables come back, and so does a flow whose
nodes and defaults can be written.
-/
import Dialogue.Proofs.Shape.Node
import Dialogue.Shape.Flow

namespace Dialogue

open Document

variable {digits : Binary → Number}

/-! ## Connections and triggers -/

theorem Connection.ofDocument?_reread (c : Connection) :
    Connection.ofDocument? (reread digits c.toDocument) = pure c := by
  unfold Connection.ofDocument? Connection.toDocument
  rw [record?_reread, pure_bind]
  case hnames => simp
  case hkeys =>
    rw [List.map_append]
    exact (List.Sublist.refl _).append (keys_given _ _)
  generalize hf : rereadFields digits _ = fields
  have hsource : required? fields "from" text? = pure c.source := required?_eq (by simp [← hf]) (text?_text _)
  have htarget : required? fields "to" text? = pure c.target := required?_eq (by simp [← hf]) (text?_text _)
  have hlabel : optional? fields "label" none (nullable? text?) = pure c.label :=
    optional?_given (by simp [← hf]; rfl) fun l _ => ⟨rfl, text?_text l⟩
  rw [hsource, pure_bind, htarget, pure_bind, hlabel, pure_bind]

theorem TriggerKind.choice?_name (k : TriggerKind) : choice? TriggerKind.named (text k.name) = pure k := by
  cases k <;> rfl

theorem TriggerConfig.ofDocument?_reread (t : TriggerConfig) :
    TriggerConfig.ofDocument? (reread digits t.toDocument) = pure t := by
  unfold TriggerConfig.ofDocument? TriggerConfig.toDocument
  rw [record?_reread, pure_bind]
  case hnames => simp
  case hkeys =>
    rw [List.map_append]
    exact (List.Sublist.refl _).append (keys_listed _ _)
  generalize hf : rereadFields digits _ = fields
  have hkind : optional? fields "type" .any (choice? TriggerKind.named) = pure t.kind :=
    optional?_eq .any (by simp [← hf]) t.kind.choice?_name
  have hkeywords : optional? fields "keywords" [] (listOf? text?) = pure t.keywords :=
    optional?_listed (by simp [← hf]; rfl) fun k _ => text?_text k
  rw [hkind, pure_bind, hkeywords, pure_bind]

/-! ## Variables -/

/-- Variables come back as they were written. -/
theorem reread_variablesDocument {vars : Variables} (h : vars.WellFormed) :
    reread digits (variablesDocument vars) = variablesDocument vars :=
  reread_ofValue (.object vars.ordered h)

theorem variables?_variablesDocument {vars : Variables} (h : vars.WellFormed) :
    variables? (variablesDocument vars) = pure vars := by
  have hdocument : variablesDocument vars = record (vars.entries.map fun e => (e.1, ofValue e.2)) := by
    rw [variablesDocument, ofFields_eq, record, List.map_map]
    rfl
  rw [hdocument]
  exact dictionaryOf?_record fun e he => value?_ofValue (h e he)

/-! ## Flows -/

/-- The nodes and the defaults of a flow can be written. -/
structure Flow.Writable (f : Flow) : Prop where
  nodes : ∀ n ∈ f.nodes, n.kind.Writable
  defaults : f.defaults.WellFormed

/-- The fields of a flow, given the documents of its parts. -/
def Flow.fieldsOf (f : Flow) (nodes : List Document) (connections trigger defaults : Document) :
    List (String × Document) :=
  [("id", text f.id), ("slug", text f.slug)] ++ given "name" (f.name.map text)
    ++ [("nodes", items nodes), ("connections", connections), ("triggerConfig", trigger), ("variables", defaults)]

/-- A flow is read with whatever its nodes and its variables are read as. -/
theorem Flow.ofDocument?_fieldsOf {f : Flow} {connections trigger : Document}
    (hc : listOf? Connection.ofDocument? connections = pure f.connections)
    (ht : TriggerConfig.ofDocument? trigger = pure f.trigger) (nodes : List Document) (defaults : Document) :
    Flow.ofDocument? (record (f.fieldsOf nodes connections trigger defaults)) = do
      let nodes ← nodes.mapM Node.ofDocument?
      let defaults ← variables? defaults
      return { f with nodes := nodes, defaults := defaults } := by
  unfold Flow.ofDocument?
  rw [record?_record, pure_bind]
  case hnames => simp
  case hkeys =>
    simp only [fieldsOf, List.map_append]
    exact ((List.Sublist.refl _).append (keys_given _ _)).append (List.Sublist.refl _)
  generalize hf : f.fieldsOf _ _ _ _ = fields
  have hid : required? fields "id" flowId? = pure f.id := required?_eq (d := text f.id) (by simp [← hf, fieldsOf]) rfl
  have hslug : optional? fields "slug" "" text? = pure f.slug :=
    optional?_eq "" (by simp [← hf, fieldsOf]) (text?_text _)
  have hname : optional? fields "name" none (nullable? text?) = pure f.name :=
    optional?_given (by simp [← hf, fieldsOf]) fun n _ => ⟨rfl, text?_text n⟩
  have hnodes : optional? fields "nodes" [] (listOf? Node.ofDocument?) = nodes.mapM Node.ofDocument? :=
    (optional?_of_some [] (by simp [← hf, fieldsOf])).trans (listOf?_eq _ nodes)
  have hconnections : optional? fields "connections" [] (listOf? Connection.ofDocument?) = pure f.connections :=
    optional?_eq [] (by simp [← hf, fieldsOf]) hc
  have htrigger : optional? fields "triggerConfig" .default TriggerConfig.ofDocument? = pure f.trigger :=
    optional?_eq .default (by simp [← hf, fieldsOf]) ht
  have hdefaults : optional? fields "variables" .empty variables? = variables? defaults :=
    optional?_of_some Dictionary.empty (by simp [← hf, fieldsOf])
  simp only [hid, hslug, hname, hnodes, hconnections, htrigger, hdefaults, pure_bind]

theorem Flow.reread_toDocument (f : Flow) : reread digits f.toDocument =
    record (f.fieldsOf (f.nodes.map fun n => reread digits n.toDocument)
      (items (f.connections.map fun c => reread digits c.toDocument)) (reread digits f.trigger.toDocument)
      (reread digits (variablesDocument f.defaults))) := by
  unfold Flow.toDocument fieldsOf
  cases f.name <;> simp [Function.comp_def]

theorem Flow.ofDocument?_reread {f : Flow} (hd : KeepsSingles digits) (h : f.Writable) :
    Flow.ofDocument? (reread digits f.toDocument) = pure f := by
  rw [Flow.reread_toDocument, Flow.ofDocument?_fieldsOf (listOf?_items fun c _ => c.ofDocument?_reread)
    f.trigger.ofDocument?_reread, mapM_read fun n hn => Node.ofDocument?_reread hd (h.nodes n hn), pure_bind,
    reread_variablesDocument h.defaults, variables?_variablesDocument h.defaults, pure_bind]

end Dialogue
