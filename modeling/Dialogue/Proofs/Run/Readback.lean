/-
What a step stores is read back under the name of its variable, whatever the variables hold besides: the answer
to a question that is resumed, the response to a call, the reply that was generated, and the marker of a call that
failed. The name has to be free of blanks at its ends. A variable keeps its name as it is written in the flow, and
a read takes the blanks off first; so a name with blanks around it is written to and never read from.
-/
import Dialogue.Proofs.Run.Resumption
import Dialogue.Proofs.Run.Visits
import Dialogue.Proofs.Variables.Lookup

namespace Dialogue

theorem Variables.lookup_store {name : String} (h : name ≠ "") (vars : Variables) (value : Value) :
    lookup (vars.store name value) name = if Text.trim name = name then some value else vars.lookup name := by
  unfold store
  rw [if_neg h]
  exact lookup_insert vars value

namespace Engine

/-- A read of the variable of a step finds, right behind the step, what the step wrote, if the variable's name has
no blanks at its ends, and else what it would have found before the step. The steps that write are the resumption
of a question, and the calls of webhook nodes and of nodes for generated replies, well or badly ended. -/
theorem lookup_written (engine : Engine) :
    (∀ (flow : Flow) (session : Session) (inbound : String) (node : Node) (q : Question),
      resumed? flow session = some (node, q) → q.variableName ≠ "" →
        Variables.lookup (opening flow session inbound).1.vars q.variableName =
          if Text.trim q.variableName = q.variableName then some (.text (q.resolve inbound))
          else session.vars.lookup q.variableName) ∧
    (∀ (id : String) (label : Option String) (w : Webhook) (vars : Variables) (ledger : Ledger),
      w.variableName ≠ "" →
        Variables.lookup (engine.step ⟨id, label, .webhook w⟩ vars ledger).vars w.variableName =
          if Text.trim w.variableName = w.variableName then
            some (Failure.markerOr WebhookResponse.value (engine.webhookOutcome w vars ledger))
          else vars.lookup w.variableName) ∧
    ∀ (id : String) (label : Option String) (p : Prompt) (vars : Variables) (ledger : Ledger),
      p.variableName ≠ "" →
        Variables.lookup (engine.step ⟨id, label, .aiResponse p⟩ vars ledger).vars p.variableName =
          if Text.trim p.variableName = p.variableName then
            some (Failure.markerOr (.text ·.text) (engine.aiOutcome p vars ledger))
          else vars.lookup p.variableName := by
  refine ⟨fun flow session inbound node q hresumed hname => ?_, fun id label w vars ledger hname => ?_,
    fun id label p vars ledger hname => ?_⟩
  · rw [opening_of_resumed hresumed]
    exact Variables.lookup_store hname ..
  · show Variables.lookup (engine.stepWebhook id w vars ledger).vars _ = _
    rw [stepWebhook_vars]
    exact Variables.lookup_store hname ..
  · show Variables.lookup (engine.stepAi id p vars ledger).vars _ = _
    rw [stepAi_vars]
    exact Variables.lookup_store hname ..

/-- In the survey, the answer is read back under `name`. -/
theorem lookup_written_survey :
    let ask : Question := ⟨"Your name?", "name", []⟩
    let session : Session := ⟨some "ask", .empty, true⟩
    resumed? .survey session = some (⟨"ask", none, .question ask⟩, ask) ∧
      Variables.lookup (opening .survey session "Ada").1.vars "name" = some (.text "Ada") := by
  intro ask session
  have hresumed : resumed? .survey session = some (⟨"ask", none, .question ask⟩, ask) := rfl
  refine ⟨hresumed, ?_⟩
  have h := (lookup_written ⟨.default, .none⟩).1 .survey session "Ada" _ _ hresumed (by decide)
  rw [if_pos (by decide)] at h
  exact h

/-- The answer to a question whose variable is ` name ` is there, and a read of ` name ` does not find it. -/
theorem lookup_written_padded :
    let ask : Node := ⟨"ask", none, .question ⟨"Your name?", " name ", []⟩⟩
    let vars := (opening ((Flow.new "padded").withNode ask) ⟨some "ask", .empty, true⟩ "Ada").1.vars
    (vars.get? " name ").map Value.display = some "Ada" ∧ (vars.lookup " name ").isNone = true := by
  decide +kernel

end Engine

end Dialogue
