/-
Flows can be written as JSON. Whatever a flow that was read of a text holds, its document has nothing but texts for keys
and nothing but numbers in range.
-/
import Dialogue.Proofs.Json.Pretty
import Dialogue.Proofs.Shape.Range

namespace Dialogue

namespace Document

/-! ## Documents -/

theorem printable_text (s : String) : (text s).Printable := .leaf trivial

theorem printable_bool (b : Bool) : (bool b).Printable := .leaf trivial

theorem printable_nat {n : Nat} (h : n ≤ maxInteger) : (nat n).Printable := .leaf ⟨by omega, Int.ofNat_le.2 h⟩

theorem printable_record {fields : List (String × Document)} (h : ∀ f ∈ fields, f.2.Printable) :
    (record fields).Printable :=
  .table (List.forall_mem_map.2 fun f _ => ⟨f.1, rfl⟩) (List.forall_mem_map.2 h)

theorem printable_items {ds : List Document} (h : ∀ d ∈ ds, d.Printable) : (items ds).Printable := .list h

theorem printable_given (name : String) {o : Option Document} (h : ∀ d ∈ o, d.Printable) :
    ∀ f ∈ given name o, f.2.Printable := by
  cases o with
  | none => exact fun f hf => absurd hf List.not_mem_nil
  | some d => exact List.forall_mem_singleton.2 (h d rfl)

theorem printable_listed (name : String) {ds : List Document} (h : ∀ d ∈ ds, d.Printable) :
    ∀ f ∈ listed name ds, f.2.Printable := by
  unfold listed
  split
  · exact fun f hf => absurd hf List.not_mem_nil
  · exact List.forall_mem_singleton.2 (printable_items h)

theorem printable_texts (name : String) (o : Option String) : ∀ f ∈ given name (o.map text), f.2.Printable := by
  refine printable_given name ?_
  cases o with
  | none => exact nofun
  | some s =>
    rintro d ⟨⟩
    exact printable_text s

theorem printable_nats (name : String) {o : Option Nat} (h : ∀ n ∈ o, n ≤ maxInteger) :
    ∀ f ∈ given name (o.map nat), f.2.Printable := by
  refine printable_given name ?_
  cases o with
  | none => exact nofun
  | some n =>
    rintro d ⟨⟩
    exact printable_nat (h n rfl)

theorem printable_ofValue {v : Value} (h : v.FromText) : (ofValue v).Printable := by
  obtain ⟨hv, hd⟩ := h
  induction hv with
  | @double x hfinite =>
    cases hd with
    | leaf hx => exact .leaf hx
  | @list vs hvs ih =>
    rw [ofValue, ofValues_eq] at hd ⊢
    cases hd with
    | list hds => exact .list (List.forall_mem_map.2 fun v hv => ih v hv (List.forall_mem_map.1 hds v hv))
  | @object fields ho hf ih =>
    rw [ofValue, ofFields_eq] at hd ⊢
    cases hd with
    | table hkeys hds =>
      exact .table (List.forall_mem_map.2 fun f _ => ⟨f.1, rfl⟩)
        (List.forall_mem_map.2 fun f hf => ih f hf (List.forall_mem_map.1 hds f hf))
  | @integer n =>
    cases hd with
    | leaf hn => exact .leaf hn
  | _ => exact .leaf trivial

end Document

open Document

/-! ## Nodes -/

theorem Choice.printable_toDocument (c : Choice) : c.toDocument.Printable :=
  printable_record
    (List.forall_mem_cons.2 ⟨printable_text c.label, List.forall_mem_singleton.2 (printable_text c.value)⟩)

theorem Branch.printable_toDocument (b : Branch) : b.toDocument.Printable := by
  cases b with
  | when expression target =>
    exact printable_record
      (List.forall_mem_cons.2 ⟨printable_text expression, List.forall_mem_singleton.2 (printable_text target)⟩)
  | otherwise target =>
    exact printable_record
      (List.forall_mem_cons.2 ⟨printable_bool true, List.forall_mem_singleton.2 (printable_text target)⟩)

theorem printable_textTable (dictionary : Dictionary String) : (textTable dictionary).Printable :=
  printable_record (List.forall_mem_map.2 fun e _ => printable_text e.2)

theorem NodeKind.printable_fields {k : NodeKind} (h : k.FromText) : ∀ f ∈ k.fields, f.2.Printable := by
  cases k with
  | question q =>
    simp only [fields, Question.fields, List.forall_mem_append, List.forall_mem_cons]
    exact ⟨⟨printable_text _, printable_text _, nofun⟩,
      printable_listed _ (List.forall_mem_map.2 fun c _ => c.printable_toDocument)⟩
  | condition branches =>
    exact List.forall_mem_singleton.2 (printable_items (List.forall_mem_map.2 fun b _ => b.printable_toDocument))
  | action a =>
    exact List.forall_mem_cons.2 ⟨printable_text a.name, List.forall_mem_singleton.2 (printable_ofValue h)⟩
  | webhook w =>
    have hheaders : ∀ d ∈ if w.headers.isEmpty then none else some (textTable w.headers), d.Printable := by
      split
      · exact nofun
      · rintro d ⟨⟩
        exact printable_textTable w.headers
    have hbody : ∀ d ∈ w.body.map ofValue, d.Printable := by
      intro d hd
      obtain ⟨v, hv, rfl⟩ := Option.map_eq_some_iff.1 hd
      exact printable_ofValue (h.body v hv)
    simp only [fields, Webhook.fields, List.forall_mem_append, List.forall_mem_cons]
    exact ⟨⟨⟨⟨⟨printable_text _, printable_text _, nofun⟩, printable_given _ hheaders⟩, printable_given _ hbody⟩,
      printable_nats _ h.timeoutMs⟩, printable_text _, nofun⟩
  | aiResponse p =>
    have htemperature : ∀ d ∈ p.temperature.map single, d.Printable := by
      intro d hd
      obtain ⟨x, hx, rfl⟩ := Option.map_eq_some_iff.1 hd
      exact .leaf (h.temperature x hx)
    have hlimit : ∀ n ∈ p.maxTokens, n ≤ maxInteger :=
      fun n hn => (h.maxTokens n hn).trans (by decide : maxTokenLimit ≤ maxInteger)
    simp only [fields, Prompt.fields, List.forall_mem_append, List.forall_mem_cons]
    exact ⟨⟨⟨⟨⟨printable_text _, printable_text _, nofun⟩, printable_texts _ _⟩, printable_given _ htemperature⟩,
      printable_nats _ hlimit⟩, printable_text _, nofun⟩
  | delay d =>
    exact List.forall_mem_cons.2 ⟨.leaf h, List.forall_mem_singleton.2 (printable_bool d.typing)⟩
  | message content => exact List.forall_mem_singleton.2 (printable_text content)
  | transfer content => exact List.forall_mem_singleton.2 (printable_text content)
  | trigger => exact fun f hf => absurd hf List.not_mem_nil
  | finish => exact fun f hf => absurd hf List.not_mem_nil

theorem Node.printable_toDocument {n : Node} (h : n.kind.FromText) : n.toDocument.Printable := by
  refine printable_record ?_
  simp only [List.forall_mem_append, List.forall_mem_cons]
  exact ⟨⟨⟨⟨printable_text _, nofun⟩, printable_texts _ _⟩, printable_text _, nofun⟩, NodeKind.printable_fields h⟩

/-! ## Flows -/

theorem Connection.printable_toDocument (c : Connection) : c.toDocument.Printable := by
  refine printable_record ?_
  simp only [List.forall_mem_append, List.forall_mem_cons]
  exact ⟨⟨printable_text _, printable_text _, nofun⟩, printable_texts _ _⟩

theorem TriggerConfig.printable_toDocument (t : TriggerConfig) : t.toDocument.Printable := by
  refine printable_record ?_
  simp only [List.forall_mem_append, List.forall_mem_cons]
  exact ⟨⟨printable_text _, nofun⟩, printable_listed _ (List.forall_mem_map.2 fun k _ => printable_text k)⟩

theorem printable_variablesDocument {vars : Variables} (h : ∀ e ∈ vars.entries, e.2.FromText) :
    (variablesDocument vars).Printable := by
  rw [variablesDocument, ofFields_eq]
  exact .table (List.forall_mem_map.2 fun e _ => ⟨e.1, rfl⟩)
    (List.forall_mem_map.2 fun e he => printable_ofValue (h e he))

/-- A flow that was read of a text can be written. -/
theorem Flow.printable_toDocument {f : Flow} (h : f.FromText) : f.toDocument.Printable := by
  refine printable_record ?_
  simp only [List.forall_mem_append, List.forall_mem_cons]
  exact ⟨⟨⟨printable_text _, printable_text _, nofun⟩, printable_texts _ _⟩,
    printable_items (List.forall_mem_map.2 fun n hn => Node.printable_toDocument (h.nodes n hn)),
    printable_items (List.forall_mem_map.2 fun c _ => c.printable_toDocument), f.trigger.printable_toDocument,
    printable_variablesDocument h.defaults, nofun⟩

end Dialogue
