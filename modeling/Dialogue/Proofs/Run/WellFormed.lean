/-
Runs keep variables well formed. What a run writes is a text, the marker of a failure or the value of a response,
so if the session's variables, the flow's defaults and the bodies of the responses are well formed, the variables
that the run leaves are.
-/
import Dialogue.Proofs.Run.Visits
import Dialogue.Proofs.Value.WellFormed

namespace Dialogue

/-! ## Replies -/

/-- The bodies of all responses are well formed. -/
def Services.WellFormed (services : Services) : Prop :=
  ∀ call request response, (services.webhook call request).outcome = .ok response → response.body.WellFormed

/-- A script is well formed if its replies are. -/
theorem Services.ofScripts_wellFormed {webhooks : List (Reply WebhookResponse)} (ais : List (Reply AiResponse))
    (h : ∀ r ∈ webhooks, ∀ response, r.outcome = .ok response → response.body.WellFormed) :
    (Services.ofScripts webhooks ais).WellFormed := by
  intro call request response hr
  have hscripted : (scripted "webhook" webhooks call).outcome = .ok response := hr
  unfold scripted at hscripted
  cases hcall : webhooks[call]? with
  | some r =>
    rw [hcall] at hscripted
    exact h r (List.mem_of_getElem? hcall) response hscripted
  | none =>
    rw [hcall] at hscripted
    cases hlast : webhooks.getLast? with
    | some r =>
      rw [hlast] at hscripted
      exact h r (List.mem_of_getLast? hlast) response hscripted
    | none =>
      rw [hlast] at hscripted
      cases hscripted

theorem Failure.marker_wellFormed (f : Failure) : f.marker.WellFormed := by
  refine .ofFields ?_
  simp only [List.forall_mem_cons]
  exact ⟨.bool, .text, .text, fun _ h => absurd h List.not_mem_nil⟩

theorem WebhookResponse.value_wellFormed {r : WebhookResponse} (h : r.body.WellFormed) : r.value.WellFormed := by
  refine .ofFields ?_
  simp only [List.forall_mem_cons]
  exact ⟨.bool, .integer, h, fun _ h => absurd h List.not_mem_nil⟩

theorem Reply.outcome_of_within {α : Type} {r : Reply α} {timer : Timer} {timeoutMs : Nat} {answer : α}
    (h : (r.within timer timeoutMs).1 = .ok answer) : r.outcome = .ok answer := by
  unfold within at h
  simp only at h
  split at h
  · cases h
  · exact h

/-! ## Runs -/

section

variable {engine : Engine} {flow : Flow}

/-- A visit writes a well-formed value. -/
theorem Visit.write?_wellFormed (hservices : engine.services.WellFormed) {v : Visit} {w : String × Value}
    (hw : v.write? engine = some w) : w.2.WellFormed := by
  obtain ⟨value, hreply, hmap⟩ := Option.bind_eq_some_iff.1 hw
  obtain ⟨name, -, rfl⟩ := Option.map_eq_some_iff.1 hmap
  show value.WellFormed
  unfold reply? at hreply
  split at hreply
  · rename_i webhook _
    cases hreply
    cases ho : engine.webhookOutcome webhook v.vars v.ledger with
    | ok response => exact WebhookResponse.value_wellFormed (hservices _ _ _ (Reply.outcome_of_within ho))
    | error failure => exact failure.marker_wellFormed
  · rename_i prompt _
    cases hreply
    cases engine.aiOutcome prompt v.vars v.ledger with
    | ok response => exact .text
    | error failure => exact failure.marker_wellFormed
  · cases hreply

theorem Engine.opening_wellFormed {session : Session} (hdefaults : flow.defaults.WellFormed)
    (h : session.vars.WellFormed) (inbound : String) :
    (opening flow session inbound).1.vars.WellFormed := by
  unfold opening
  split
  · exact h.store .text _
  · exact h.mergeDefaults hdefaults

/-- A run keeps variables well formed. -/
theorem Engine.run_wellFormed {session : Option Session} (hdefaults : flow.defaults.WellFormed)
    (hservices : engine.services.WellFormed) (h : (session.getD .new).vars.WellFormed) (inbound : String)
    (ledger : Ledger) : (engine.run flow session inbound ledger).1.session.vars.WellFormed := by
  rw [run_vars, varsAfter]
  refine (opening_wellFormed hdefaults h inbound).overwrite fun w hw => ?_
  obtain ⟨v, -, hv⟩ := List.mem_filterMap.1 hw
  exact Visit.write?_wellFormed hservices hv

end

end Dialogue
