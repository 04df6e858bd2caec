/-
The report on keywords that never match is exact: it warns of a keyword trigger just when no message sets the
trigger off. The report tests the keywords as they are written, and the trigger what is left of them in lower case;
the two agree since lower case erases no character, and a keyword that is not blank is found in the message that
says only this.
-/
import Dialogue.Proofs.Flow.Trigger
import Dialogue.Proofs.Lint.Findings

namespace Dialogue.Flow

variable {f : Flow}

/-- The report calls the keywords silent when they are all blank. -/
theorem silentKeywords_mem_iff : .silentKeywords ∈ f.findings ↔
    f.nodes ≠ [] ∧ f.trigger.kind = .keyword ∧ ∀ k ∈ f.trigger.keywords, Text.isBlankText k = true := by
  rw [mem_findings_iff rfl, findingsIn, triggerFindings, List.mem_ite_nil_right, List.mem_singleton, List.all_eq_true,
    and_iff_left rfl]

/-- A flow with nodes and a keyword trigger has a finding with the message for silent keywords exactly when its
trigger accepts no message at all. -/
theorem silentKeywords_reported_iff (hnodes : f.nodes ≠ []) (hkind : f.trigger.kind = .keyword) :
    (∃ x ∈ f.findings, x.message = "keyword trigger without keywords never matches") ↔
      ∀ inbound, f.trigger.accepts inbound = false := by
  have hmessage : Finding.silentKeywords.message = "keyword trigger without keywords never matches" := rfl
  have hreported : (∃ x ∈ f.findings, x.message = "keyword trigger without keywords never matches") ↔
      .silentKeywords ∈ f.findings := by
    refine ⟨fun ⟨x, hx, h⟩ => ?_, fun h => ⟨_, h, hmessage⟩⟩
    -- the message tells the part of the report, and that part has no other finding
    have hpart := Finding.part?_of_message_eq (.inr rfl) (h.trans hmessage.symm)
    cases x with
    | silentKeywords => exact hx
    | _ => cases hpart
  rw [hreported, silentKeywords_mem_iff, and_iff_right hnodes, and_iff_right hkind]
  constructor
  · intro hblank inbound
    refine eq_false_of_ne_true fun h => ?_
    obtain ⟨k, hk, hnot, -⟩ := (TriggerConfig.accepts_iff hkind).1 h
    exact absurd (hblank k hk) (ne_true_of_eq_false hnot)
  · intro hsilent k hk
    refine Decidable.byContradiction fun h => ?_
    have haccepts := TriggerConfig.accepts_keyword hkind hk (eq_false_of_ne_true h)
    rw [hsilent] at haccepts
    cases haccepts

/-- A flow whose only keyword is a gap is reported, and no message starts it. -/
theorem silentKeywords_reported_gap :
    let flow : Flow := { (Flow.new "hello").withNode ⟨"start", none, .trigger⟩ with trigger := ⟨.keyword, [" \t"]⟩ }
    (∃ x ∈ flow.findings, x.message = "keyword trigger without keywords never matches") ∧
      ∀ inbound, flow.trigger.accepts inbound = false :=
  have hfound := ⟨Finding.silentKeywords, by decide +kernel, rfl⟩
  ⟨hfound, (silentKeywords_reported_iff (by decide) rfl).1 hfound⟩

end Dialogue.Flow
