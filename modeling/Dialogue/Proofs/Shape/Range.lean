/-
Flows that are read of a text. Whatever a flow holds that is not text comes from leaves of the document: its values are
well formed, and its numbers are in the range of their types, a time limit and a number of tokens within the limits of
their fields. A delay and a temperature need not be finite, and the body of a webhook can be null.
-/
import Dialogue.Proofs.Document.Range
import Dialogue.Shape.Flow

namespace Dialogue

open Document Read

/-! ## Kinds -/

/-- What a webhook holds that was read of a text. -/
structure Webhook.FromText (w : Webhook) : Prop where
  body : ∀ v ∈ w.body, v.FromText
  timeoutMs : ∀ n ∈ w.timeoutMs, n ≤ maxInteger

/-- What a prompt holds that was read of a text. -/
structure Prompt.FromText (p : Prompt) : Prop where
  temperature : ∀ x ∈ p.temperature, x.Fits .single
  maxTokens : ∀ n ∈ p.maxTokens, n ≤ maxTokenLimit

/-- What a kind of node holds that was read of a text. -/
def NodeKind.FromText : NodeKind → Prop
  | .action a => a.payload.FromText
  | .webhook w => w.FromText
  | .aiResponse p => p.FromText
  | .delay d => d.seconds.Fits .double
  | _ => True

theorem Value.fromText_null : Value.null.FromText := ⟨.null, .leaf trivial⟩

variable {d : Document}

theorem Action.gives_fromText (h : d.FromText) : Gives (Action.ofDocument? d) fun a => a.payload.FromText := by
  refine (h.record? _).bind fun fields hfields => (gives_true _).bind fun name _ => ?_
  exact (hfields.optional? "payload" Value.fromText_null fun d hd => hd.value?).bind fun payload hpayload =>
    gives_pure hpayload

theorem Webhook.gives_fromText (h : d.FromText) : Gives (Webhook.ofDocument? d) Webhook.FromText := by
  refine (h.record? _).bind fun fields hfields => (gives_true _).bind fun url _ => (gives_true _).bind fun method _ =>
    (gives_true _).bind fun headers _ => ?_
  refine (hfields.optional? (P := fun body => ∀ v ∈ body, v.FromText) "body" nofun
    fun d hd => hd.nullable? fun d hd => hd.value?).bind fun body hbody => ?_
  refine (hfields.optional? (P := fun timeoutMs => ∀ n ∈ timeoutMs, n ≤ maxInteger) "timeoutMs" (by simp)
    fun d hd => hd.nullable? fun d _ => gives_natural? maxInteger d).bind fun timeoutMs htimeoutMs => ?_
  exact (gives_true _).bind fun variableName _ => gives_pure ⟨hbody, htimeoutMs⟩

theorem Prompt.gives_fromText (h : d.FromText) : Gives (Prompt.ofDocument? d) Prompt.FromText := by
  refine (h.record? _).bind fun fields hfields => (gives_true _).bind fun system _ => (gives_true _).bind fun user _ =>
    (gives_true _).bind fun model _ => ?_
  refine (hfields.optional? (P := fun temperature => ∀ x ∈ temperature, x.Fits .single) "temperature" nofun
    fun d hd => hd.nullable? fun d hd => hd.single?).bind fun temperature htemperature => ?_
  refine (hfields.optional? (P := fun maxTokens => ∀ n ∈ maxTokens, n ≤ maxTokenLimit) "maxTokens" (by simp)
    fun d hd => hd.nullable? fun d _ => gives_natural? maxTokenLimit d).bind fun maxTokens hmaxTokens => ?_
  exact (gives_true _).bind fun variableName _ => gives_pure ⟨htemperature, hmaxTokens⟩

theorem Delay.gives_fromText (h : d.FromText) : Gives (Delay.ofDocument? d) fun d => d.seconds.Fits .double := by
  refine (h.record? _).bind fun fields hfields => ?_
  refine (hfields.optional? (P := fun seconds => seconds.Fits .double) "seconds"
    (Binary.zero_fits FloatFormat.proper_double false) fun d hd => hd.double?).bind fun seconds hseconds => ?_
  exact (gives_true _).bind fun typing _ => gives_pure hseconds

theorem NodeKind.gives_fromText (h : d.FromText) (name : String) :
    Gives (NodeKind.ofDocument? name d) NodeKind.FromText := by
  unfold NodeKind.ofDocument?
  split
  · exact (gives_true _).bind fun _ _ => gives_pure trivial
  · exact (gives_true _).bind fun _ _ => gives_pure trivial
  · exact (gives_true _).bind fun _ _ => gives_pure trivial
  · exact (gives_true _).bind fun _ _ => gives_pure trivial
  · exact (Action.gives_fromText h).bind fun a ha => gives_pure ha
  · exact (Webhook.gives_fromText h).bind fun w hw => gives_pure hw
  · exact (Prompt.gives_fromText h).bind fun p hp => gives_pure hp
  · exact (Delay.gives_fromText h).bind fun d hd => gives_pure hd
  · exact (gives_true _).bind fun _ _ => gives_pure trivial
  · exact (gives_true _).bind fun _ _ => gives_pure trivial
  · exact gives_failure

/-! ## Nodes -/

theorem gives_named? {entries : List (Document × Document)} (h : ∀ e ∈ entries, e.2.FromText) :
    Gives (named? entries) FieldsFromText :=
  gives_mapM fun e he => (gives_true _).bind fun _ _ => gives_pure (h e he)

theorem NodeKind.gives_fromText_fields {fields : List (String × Document)} (h : FieldsFromText fields) :
    Gives (NodeKind.ofFields? fields) NodeKind.FromText := by
  refine (gives_mapM (P := fun f : String × Document => f.2.FromText) fun f hf =>
    (h f hf).settle.bind fun d hd => gives_pure hd).bind fun fields hfields => ?_
  refine (gives_true _).bind fun _ _ => (gives_true _).bind fun name _ => NodeKind.gives_fromText ?_ name
  refine .table (List.forall_mem_map.2 fun f _ => .leaf trivial) (List.forall_mem_map.2 fun f hf => ?_)
  exact hfields f (List.mem_filter.1 hf).1

theorem Node.gives_fromText (h : d.FromText) : Gives (Node.ofDocument? d) fun n => n.kind.FromText := by
  refine h.content.bind fun d hd => ?_
  cases hd with
  | table hkeys h =>
    refine (gives_named? h).bind fun fields hfields => (gives_true _).bind fun _ _ => (gives_true _).bind fun id _ =>
      (gives_true _).bind fun label _ => ?_
    refine (NodeKind.gives_fromText_fields fun f hf => ?_).bind fun kind hkind => gives_pure hkind
    exact hfields f (List.mem_filter.1 hf).1
  | _ => exact gives_failure

/-! ## Flows -/

/-- What a flow holds that was read of a text. -/
structure Flow.FromText (f : Flow) : Prop where
  nodes : ∀ n ∈ f.nodes, n.kind.FromText
  defaults : ∀ e ∈ f.defaults.entries, e.2.FromText

/-- A flow that is read of a document of a text holds what text can hold. -/
theorem Flow.gives_fromText (h : d.FromText) : Gives (Flow.ofDocument? d) Flow.FromText := by
  refine (h.record? _).bind fun fields hfields => (gives_true _).bind fun id _ => (gives_true _).bind fun slug _ =>
    (gives_true _).bind fun name _ => ?_
  refine (hfields.optional? (P := fun nodes : List Node => ∀ n ∈ nodes, n.kind.FromText) "nodes"
    (fun n hn => absurd hn List.not_mem_nil)
    fun d hd => hd.listOf? fun d hd => Node.gives_fromText hd).bind fun nodes hnodes => ?_
  refine (gives_true _).bind fun connections _ => (gives_true _).bind fun trigger _ => ?_
  refine (hfields.optional? (P := fun vars : Variables => ∀ e ∈ vars.entries, e.2.FromText) "variables"
    (fun e he => absurd he List.not_mem_nil)
    fun d hd => hd.dictionaryOf? fun d hd => hd.value?).bind fun defaults hdefaults => ?_
  exact gives_pure ⟨hnodes, hdefaults⟩

end Dialogue
