/-
Saved flows that are loaded again. A flow that was loaded from YAML is always written as JSON, but not always can the
copy be loaded: JSON has no number for a delay that is not finite, and reads one level of nesting less than YAML. Of
every other flow the copy is accepted, whatever numbers it holds, for no number in the range of its type is written as
one that is refused.
-/
import Dialogue.Load
import Dialogue.Proofs.Json.Echo
import Dialogue.Proofs.Json.Printable
import Dialogue.Proofs.Shape.Acceptance
import Dialogue.Proofs.Yaml.Range

namespace Dialogue

open Document

/-! ## What is loaded -/

theorem Flow.parse_eq_ok_iff {format : Format} {text : String} {f : Flow} :
    Flow.parse format text = .ok f ↔ (format.source? text).bind (·.read? Flow.ofDocument?) = some f := by
  unfold Flow.parse
  split
  · rename_i g hg
    rw [hg]
    simp
  · rename_i hnone
    rw [hnone]
    simp

/-- A flow that was loaded from YAML holds what text can hold. -/
theorem Flow.fromText_of_parse {text : String} {f : Flow} (h : Flow.parse .yaml text = .ok f) : f.FromText := by
  obtain ⟨source, hsource, hread⟩ := Option.bind_eq_some_iff.1 (Flow.parse_eq_ok_iff.1 h)
  obtain ⟨⟨g, left⟩, hrun, rfl⟩ := Option.map_eq_some_iff.1 hread
  exact Flow.gives_fromText (Yaml.source?_fromText hsource) source.budget g left hrun

/-- With other doubles it can be read again. -/
theorem NodeKind.FromText.rereadable {k : NodeKind} (h : k.FromText) : k.redoubled.Rereadable := by
  cases k with
  | action a => exact (Value.FromText.echo h).1
  | webhook w =>
    refine ⟨fun v hv => ?_, h.timeoutMs⟩
    obtain ⟨u, hu, rfl⟩ := Option.map_eq_some_iff.1 hv
    exact (h.body u hu).echo.1
  | aiResponse p => exact h.maxTokens
  | _ => trivial

theorem NodeKind.FromText.hasFiniteDelay {k : NodeKind} (h : k.FromText) :
    k.redoubled.hasFiniteDelay = k.hasFiniteDelay := by
  cases k with
  | delay d => exact Json.isFinite_redouble h
  | _ => rfl

theorem Flow.FromText.rereadable {f : Flow} (h : f.FromText) : f.redoubled.Rereadable where
  nodes := List.forall_mem_map.2 fun n hn => (h.nodes n hn).rereadable
  defaults := Variables.wellFormed_redoubled h.defaults

theorem Flow.FromText.finiteDelays_iff {f : Flow} (h : f.FromText) :
    f.redoubled.FiniteDelays ↔ f.FiniteDelays := by
  unfold Flow.FiniteDelays Flow.redoubled
  rw [List.forall_mem_map]
  refine forall₂_congr fun n hn => ?_
  rw [Node.redoubled, (h.nodes n hn).hasFiniteDelay]

/-! ## What is loaded again -/

/-- The document that the copy of a flow holds. -/
theorem Flow.document?_save {f : Flow} (h : f.FromText) : Json.document? (f.save .json) =
    some ((reread Json.echoDigits f.redoubled.toDocument).capped Json.maxDepth) := by
  have hpretty : f.save .json = Json.pretty 0 f.toDocument := rfl
  rw [hpretty, Json.document?_pretty (Flow.printable_toDocument h), Flow.echo_toDocument h]

/-- What the copy of a flow is loaded as. -/
theorem Flow.parse_save_eq_ok_iff {f g : Flow} (h : f.FromText) : Flow.parse .json (f.save .json) = .ok g ↔
    Source.read? ⟨(reread Json.echoDigits f.redoubled.toDocument).capped Json.maxDepth, 0⟩ Flow.ofDocument? =
      some g := by
  rw [Flow.parse_eq_ok_iff, Format.source?, Flow.document?_save h, Option.map_some, Option.bind_some]

/-- A flow that was loaded from YAML can be loaded from its JSON copy exactly if all of its delays are finite and
nothing in it is nested deeper than JSON is read. -/
theorem Flow.parse_save_iff {text : String} {f : Flow} (h : Flow.parse .yaml text = .ok f) :
    (∃ g, Flow.parse .json (f.save .json) = .ok g) ↔
      f.FiniteDelays ∧ f.toDocument.nesting ≤ Json.maxDepth := by
  have hf := Flow.fromText_of_parse h
  have hnesting : (reread Json.echoDigits f.redoubled.toDocument).nesting = f.toDocument.nesting := by
    rw [← Flow.echo_toDocument hf, Json.nesting_echo]
  simp only [Flow.parse_save_eq_ok_iff hf]
  constructor
  · rintro ⟨g, hg⟩
    obtain ⟨found, hrun, -⟩ := Option.map_eq_some_iff.1 hg
    have hfinds : Read.Finds
        (Flow.ofDocument? ((reread Json.echoDigits f.redoubled.toDocument).capped Json.maxDepth)) :=
      ⟨0, found, hrun⟩
    have hle : (reread Json.echoDigits f.redoubled.toDocument).nesting ≤ Json.maxDepth :=
      Flow.nesting_le_of_finds hf.rereadable.defaults hfinds
    rw [capped_of_nesting_le _ _ hle] at hfinds
    exact ⟨hf.finiteDelays_iff.1 (Flow.finiteDelays_of_finds hfinds), hnesting ▸ hle⟩
  · rintro ⟨hdelays, hle⟩
    rw [capped_of_nesting_le _ _ (hnesting.trans_le hle)]
    obtain ⟨g, hg⟩ := Flow.exists_ofDocument? hf.rereadable (hf.finiteDelays_iff.2 hdelays)
    refine ⟨g, ?_⟩
    show (Flow.ofDocument? _).within 0 = _
    rw [hg]
    rfl

theorem Flow.exists_parse {text : String} {p : Flow → Bool} (h : (Flow.parse .yaml text).toOption.any p = true) :
    ∃ f, Flow.parse .yaml text = .ok f ∧ p f = true := by
  cases hf : Flow.parse .yaml text with
  | error fault =>
    rw [hf] at h
    cases h
  | ok f =>
    rw [hf, Except.toOption, Option.any_some] at h
    exact ⟨f, rfl, h⟩

/-- A flow that waits for half a second and asks for a reply at no finite temperature. -/
def Flow.pausing : String :=
  "id: f\nnodes:\n- id: a\n  type: delay\n  seconds: 0.5\n- id: b\n  type: ai_response\n  temperature: .inf\n"

/-- The copy of a flow that waits for half a second can be loaded, although a temperature in it is not finite. -/
theorem Flow.parse_save_pausing : ∃ f, Flow.parse .yaml pausing = .ok f ∧ f.FiniteDelays ∧
    f.toDocument.nesting ≤ Json.maxDepth ∧ ∃ g, Flow.parse .json (f.save .json) = .ok g := by
  have hrun : (Flow.parse .yaml pausing).toOption.any
      (fun f => decide (f.FiniteDelays ∧ f.toDocument.nesting ≤ Json.maxDepth)) = true := by decide +kernel
  obtain ⟨f, hf, hgood⟩ := Flow.exists_parse hrun
  rw [decide_eq_true_eq] at hgood
  exact ⟨f, hf, hgood.1, hgood.2, (Flow.parse_save_iff hf).2 hgood⟩

/-- A flow that waits forever. -/
def Flow.endless : String := "id: f\nnodes:\n- id: wait\n  type: delay\n  seconds: .inf\n"

/-- The copy of a flow that waits forever cannot be loaded. -/
theorem Flow.parse_save_endless :
    ∃ f, Flow.parse .yaml endless = .ok f ∧ ∀ g, Flow.parse .json (f.save .json) ≠ .ok g := by
  have hrun : (Flow.parse .yaml endless).toOption.any
      (fun f => (Flow.parse .json (f.save .json)).toOption.isNone) = true := by decide +kernel
  obtain ⟨f, hf, hrefused⟩ := Flow.exists_parse hrun
  refine ⟨f, hf, fun g hg => ?_⟩
  rw [hg] at hrefused
  cases hrefused

end Dialogue
