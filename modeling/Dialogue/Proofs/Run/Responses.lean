/-
What a run puts out, record by record. The outputs of a run are those of its records, one group for each record
and in the order of the records. The kind of the node and the outcome of the step settle which outputs a group
has, and every one of them names the node.

Behind a question or a transfer a walk goes nowhere. So each of the two stands last among the outputs, and it
is there exactly when the run stopped for that reason.
-/
import Dialogue.Proofs.Run.Records

namespace Dialogue

/-! ## The outputs of a step -/

namespace Output

/-- The node that an output is about. -/
def node? : Output → Option String
  | .message node _ => some node
  | .question node _ _ => some node
  | .transfer node _ => some node
  | .typing node _ => some node
  | .system node _ => node

/-- Why a run puts out nothing more behind an output, if it does not. -/
def closing? : Output → Option Termination
  | .question .. => some .awaitingInput
  | .transfer .. => some .transferred
  | _ => none

end Output

/-- The outputs of a step at a node with an id, by the kind of the node and the outcome of the step, on the
variables and the ledger that the step finds. -/
inductive NodeKind.Puts (engine : Engine) (vars : Variables) (ledger : Ledger) (id : String) :
    NodeKind → Outcome → List Output → Prop
  | trigger : Puts engine vars ledger id .trigger .continue []
  | message {content : String} :
    Puts engine vars ledger id (.message content) .continue [.message id (interpolate vars content)]
  | question {q : Question} :
    Puts engine vars ledger id (.question q) .halt [.question id (interpolate vars q.content) q.choices]
  | taken {branches : List Branch} : Puts engine vars ledger id (.condition branches) .jump []
  | missed {branches : List Branch} :
    Puts engine vars ledger id (.condition branches) .continue [.system (some id) fallthroughNotice]
  | action {a : Action} : Puts engine vars ledger id (.action a) .continue [.system (some id) ("action: " ++ a.name)]
  | answered {w : Webhook} {response : WebhookResponse} : engine.webhookOutcome w vars ledger = .ok response →
    Puts engine vars ledger id (.webhook w) .continue []
  | unanswered {w : Webhook} {failure : Failure} : engine.webhookOutcome w vars ledger = .error failure →
    Puts engine vars ledger id (.webhook w) .failed [.system (some id) ("webhook failed: " ++ failure.message)]
  | generated {p : Prompt} {response : AiResponse} : engine.aiOutcome p vars ledger = .ok response →
    Puts engine vars ledger id (.aiResponse p) .continue [.message id response.text]
  | replaced {p : Prompt} {failure : Failure} {text : String} : engine.aiOutcome p vars ledger = .error failure →
    engine.config.aiFallback = some text → Puts engine vars ledger id (.aiResponse p) .failed
      [.system (some id) ("ai response failed: " ++ failure.message),
        .message id (interpolate (vars.store p.variableName failure.marker) text)]
  | missing {p : Prompt} {failure : Failure} : engine.aiOutcome p vars ledger = .error failure →
    engine.config.aiFallback = none → Puts engine vars ledger id (.aiResponse p) .failed
      [.system (some id) ("ai response failed: " ++ failure.message)]
  | typing {d : Delay} : d.typing = true → Puts engine vars ledger id (.delay d) .continue [.typing id d.seconds]
  | silent {d : Delay} : d.typing = false → Puts engine vars ledger id (.delay d) .continue []
  | transfer {content : String} :
    Puts engine vars ledger id (.transfer content) .terminate [.transfer id (interpolate vars content)]
  | finish : Puts engine vars ledger id .finish .terminate []

namespace NodeKind.Puts

variable {engine : Engine} {vars : Variables} {ledger : Ledger} {id : String} {kind : NodeKind} {outcome : Outcome}
  {group : List Output}

theorem question_eq {q : Question} (h : Puts engine vars ledger id (.question q) outcome group) :
    group = [.question id (interpolate vars q.content) q.choices] := by
  cases h
  rfl

theorem transfer_eq {content : String} (h : Puts engine vars ledger id (.transfer content) outcome group) :
    group = [.transfer id (interpolate vars content)] := by
  cases h
  rfl

theorem node?_eq (h : kind.Puts engine vars ledger id outcome group) : ∀ o ∈ group, o.node? = some id := by
  cases h <;> simp [Output.node?]

/-- A failed step has its notice, whatever else it puts out. -/
theorem notice (h : kind.Puts engine vars ledger id outcome group) (hf : outcome = .failed) :
    ∃ text, .system (some id) text ∈ group := by
  cases h <;> cases hf <;> exact ⟨_, List.mem_cons_self⟩

/-- A question or a transfer is alone in its group, and it is where the walk stops. -/
theorem closing (h : kind.Puts engine vars ledger id outcome group) {o : Output} (ho : o ∈ group)
    {reason : Termination} (hr : o.closing? = some reason) :
    group = [o] ∧ (kind.control vars = .halt ∧ reason = .awaitingInput ∨ kind.control vars = .terminate reason) := by
  cases h with
  | question =>
    rw [List.mem_singleton] at ho
    subst ho
    cases hr
    exact ⟨rfl, .inl ⟨rfl, rfl⟩⟩
  | transfer =>
    rw [List.mem_singleton] at ho
    subst ho
    cases hr
    exact ⟨rfl, .inr rfl⟩
  | trigger | taken | answered | silent | finish => cases ho
  | message | missed | action | unanswered | generated | missing | typing =>
    rw [List.mem_singleton] at ho
    subst ho
    cases hr
  | replaced =>
    rw [List.mem_pair] at ho
    rcases ho with rfl | rfl <;> cases hr

end NodeKind.Puts

section

variable (engine : Engine) (id : String) (vars : Variables) (ledger : Ledger)

theorem Engine.stepCondition_puts (branches : List Branch) :
    NodeKind.Puts engine vars ledger id (.condition branches) (stepCondition id branches vars ledger).outcome
      (stepCondition id branches vars ledger).outputs := by
  unfold stepCondition
  cases takenBranch? vars branches with
  | some b => exact .taken
  | none => exact .missed

theorem Engine.stepWebhook_puts (w : Webhook) :
    NodeKind.Puts engine vars ledger id (.webhook w) (engine.stepWebhook id w vars ledger).outcome
      (engine.stepWebhook id w vars ledger).outputs := by
  unfold stepWebhook
  simp only
  split
  · rename_i response h
    exact .answered h
  · rename_i failure h
    exact .unanswered h

theorem Engine.stepAi_puts (p : Prompt) :
    NodeKind.Puts engine vars ledger id (.aiResponse p) (engine.stepAi id p vars ledger).outcome
      (engine.stepAi id p vars ledger).outputs := by
  unfold stepAi
  simp only
  split
  · rename_i response h
    exact .generated h
  · rename_i failure h
    cases hf : engine.config.aiFallback with
    | some text => exact .replaced h hf
    | none => exact .missing h hf

theorem Engine.stepDelay_puts (d : Delay) :
    NodeKind.Puts engine vars ledger id (.delay d) (engine.stepDelay id d vars ledger).outcome
      (engine.stepDelay id d vars ledger).outputs := by
  unfold stepDelay
  simp only
  split
  · rename_i h
    exact .typing h
  · rename_i h
    exact .silent (Bool.eq_false_iff.2 h)

end

/-- A visit puts out what its kind and its outcome say. -/
theorem Visit.report_puts (engine : Engine) (v : Visit) : v.node.kind.Puts engine v.vars v.ledger v.node.id
    (v.report engine).outcome (v.report engine).outputs := by
  obtain ⟨⟨id, label, kind⟩, vars, ledger⟩ := v
  unfold report Engine.step
  cases kind with
  | trigger => exact .trigger
  | message content => exact .message
  | question q => exact .question
  | condition branches => exact engine.stepCondition_puts id vars ledger branches
  | action a => exact .action
  | webhook w => exact engine.stepWebhook_puts id vars ledger w
  | aiResponse p => exact engine.stepAi_puts id vars ledger p
  | delay d => exact engine.stepDelay_puts id vars ledger d
  | transfer content => exact .transfer
  | finish => exact .finish

/-! ## The groups of a run -/

namespace Engine

section

variable {engine : Engine} {flow : Flow} {session : Option Session} {inbound : String} {ledger : Ledger} {i : Nat}
  {v : Visit}

theorem run_responses (engine : Engine) (flow : Flow) (session : Option Session) (inbound : String)
    (ledger : Ledger) : (engine.run flow session inbound ledger).1.responses =
      ((engine.visits flow session inbound ledger).map fun v => (v.report engine).outputs).flatten := by
  obtain ⟨next, p, h⟩ := engine.visits_course flow session inbound ledger
  rw [h.stop.responses_eq, h.trail.responses_eq, ← List.flatMap_def]
  rfl

/-- What a visit finds is what a run leaves that stops in front of it. -/
theorem visits_before (hv : (engine.visits flow session inbound ledger)[i]? = some v) :
    let before := (engine.withBudget i).run flow session inbound ledger
    before.1.session.vars = v.vars ∧ before.2 = v.ledger := by
  obtain ⟨next, p, h⟩ := engine.visits_course flow session inbound ledger
  obtain ⟨p', ht, hvars, hledger⟩ := h.trail.cut hv
  have hlength : ((engine.visits flow session inbound ledger).take i).length = i :=
    List.length_take_of_le (Nat.le_of_lt (List.getElem?_eq_some_iff.1 hv).1)
  -- a trail is one for every budget, and with this one there are no steps left at its end
  have htrail : Trail (engine.withBudget i) flow (entrance? flow session inbound) (outset flow session inbound ledger)
      ((engine.visits flow session inbound ledger).take i) (some v.node.id) p' :=
    (show Trail (engine.withBudget engine.config.maxSteps) flow _ _ _ _ _ from ht).withBudget i
  have hrun : (engine.withBudget i).run flow session inbound ledger =
      (engine.withBudget i).walk flow 0 (some v.node.id) p' := by
    rw [← htrail.walk_eq nofun 0, hlength]
    rfl
  intro before
  rw [show before = _ from hrun, hvars, hledger]
  unfold walk
  simp only [visits_node? (List.mem_of_getElem? hv)]
  exact ⟨rfl, rfl⟩

/-- A visit from which the walk goes nowhere is the last one. -/
theorem visits_length (hv : (engine.visits flow session inbound ledger)[i]? = some v)
    (hn : flow.onward v.node (v.node.kind.control v.vars) = none) :
    (engine.visits flow session inbound ledger).length = i + 1 := by
  have hlt := (List.getElem?_eq_some_iff.1 hv).1
  cases hu : (engine.visits flow session inbound ledger)[i + 1]? with
  | none => exact Nat.le_antisymm (List.getElem?_eq_none_iff.1 hu) hlt
  | some u => rw [visits_onward hv hu] at hn; cases hn

/-- A run whose last visit halts or ends it stops for that reason. -/
theorem Course.termination_eq {visits : List Visit} {next : Option String} {p : Progress}
    (h : Course engine flow session inbound ledger visits next p) (hv : visits.getLast? = some v)
    {reason : Termination} (hc : v.node.kind.control v.vars = .halt ∧ reason = .awaitingInput ∨
      v.node.kind.control v.vars = .terminate reason) :
    (engine.run flow session inbound ledger).1.termination = reason := by
  have hnext := h.trail.next_of_last hv
  have hcontrol := v.report_control engine
  have hs := h.stop
  generalize engine.run flow session inbound ledger = r at hs
  cases hs with
  | exhausted hf =>
    rw [hf v hv] at hcontrol
    rcases hc with ⟨hc, -⟩ | hc <;> rw [hc] at hcontrol <;> cases hcontrol
  | dangling => rcases hc with ⟨hc, -⟩ | hc <;> rw [hc] at hnext <;> cases hnext
  | spent => rcases hc with ⟨hc, -⟩ | hc <;> rw [hc] at hnext <;> cases hnext
  | halted hv' hc' =>
    rw [hv] at hv'
    cases hv'
    rw [hcontrol] at hc'
    rcases hc with ⟨-, rfl⟩ | hc
    · rfl
    · rw [hc] at hc'; cases hc'
  | terminated hv' hc' =>
    rw [hv] at hv'
    cases hv'
    rw [hcontrol] at hc'
    rcases hc with ⟨hc, -⟩ | hc
    · rw [hc] at hc'; cases hc'
    · rw [hc] at hc'; cases hc'; rfl

/-- A visit that puts out a question or a transfer is the last one, and the run stops for that reason. -/
theorem visits_closing (hv : (engine.visits flow session inbound ledger)[i]? = some v) {o : Output}
    (ho : o ∈ (v.report engine).outputs) {reason : Termination} (hr : o.closing? = some reason) :
    (engine.visits flow session inbound ledger).length = i + 1 ∧ (v.report engine).outputs = [o] ∧
      (engine.run flow session inbound ledger).1.termination = reason := by
  obtain ⟨next, p, h⟩ := engine.visits_course flow session inbound ledger
  obtain ⟨hgroup, hcontrol⟩ := (v.report_puts engine).closing ho hr
  have hlength := visits_length hv (by rcases hcontrol with ⟨hc, -⟩ | hc <;> rw [hc] <;> rfl)
  refine ⟨hlength, hgroup, h.termination_eq ?_ hcontrol⟩
  rw [List.getLast?_eq_getElem?, hlength]
  exact hv

/-- Behind a question or a transfer a run puts out nothing more, and stops for that reason. -/
theorem run_closing {o : Output} (ho : o ∈ (engine.run flow session inbound ledger).1.responses)
    {reason : Termination} (hr : o.closing? = some reason) :
    (engine.run flow session inbound ledger).1.termination = reason ∧
      ∃ earlier, (engine.run flow session inbound ledger).1.responses = earlier ++ [o] ∧
        ∀ other ∈ earlier, other.closing? = none := by
  rw [run_responses, ← List.flatMap_def] at ho ⊢
  obtain ⟨v, hmem, ho⟩ := List.mem_flatMap.1 ho
  obtain ⟨i, hv⟩ := List.mem_iff_getElem?.1 hmem
  obtain ⟨hlength, hgroup, htermination⟩ := visits_closing hv ho hr
  have hvisits : engine.visits flow session inbound ledger =
      (engine.visits flow session inbound ledger).take i ++ [v] := by
    have htake := List.take_add_one (l := engine.visits flow session inbound ledger) (i := i)
    rw [← hlength, List.take_length, hv] at htake
    exact htake
  refine ⟨htermination, ((engine.visits flow session inbound ledger).take i).flatMap fun v => (v.report engine).outputs,
    ?_, fun other hother => ?_⟩
  · conv => lhs; rw [hvisits]
    rw [List.flatMap_append, List.flatMap_singleton, hgroup]
  · -- a visit before the last one closes nothing
    obtain ⟨u, hu, hother⟩ := List.mem_flatMap.1 hother
    obtain ⟨j, hu⟩ := List.mem_iff_getElem?.1 hu
    rw [List.getElem?_take] at hu
    split at hu
    · rename_i hj
      cases hc : other.closing? with
      | none => rfl
      | some reason' =>
        have := (visits_closing hu hother hc).1
        omega
    · cases hu

theorem mem_responses {o : Output} (hv : v ∈ engine.visits flow session inbound ledger)
    (ho : o ∈ (v.report engine).outputs) : o ∈ (engine.run flow session inbound ledger).1.responses := by
  rw [run_responses, ← List.flatMap_def]
  exact List.mem_flatMap.2 ⟨v, hv, ho⟩

end

/-- Whatever the flow, the settings, the session, the message and the services: the outputs of a run are made of
one group for each record, in order, each what a step at the record's node puts out with the record's outcome, on
what a run leaves that stops in front of it. A failed step has its notice. A question is put out exactly when the
run awaits input, a transfer exactly when it is transferred, and each of them comes once and last. -/
theorem run_responses_aligned (engine : Engine) (flow : Flow) (session : Option Session) (inbound : String)
    (ledger : Ledger) :
    let result := (engine.run flow session inbound ledger).1
    let records := result.trace.steps
    (∃ groups : List (List Output), result.responses = groups.flatten ∧ groups.length = records.length ∧
      ∀ i r group, records[i]? = some r → groups[i]? = some group →
        (∀ o ∈ group, o.node? = some r.node) ∧
        (r.outcome = .failed → ∃ text, .system (some r.node) text ∈ group) ∧
        ∃ node, flow.node? r.node = some node ∧
          let before := (engine.withBudget i).run flow session inbound ledger
          node.kind.Puts engine before.1.session.vars before.2 r.node r.outcome group) ∧
    ((∃ node text choices, .question node text choices ∈ result.responses) ↔ result.termination = .awaitingInput) ∧
    ((∃ node text, .transfer node text ∈ result.responses) ↔ result.termination = .transferred) ∧
    ∀ o ∈ result.responses, o.closing? ≠ none →
      ∃ earlier, result.responses = earlier ++ [o] ∧ ∀ other ∈ earlier, other.closing? = none := by
  intro result records
  obtain ⟨next, p, h⟩ := engine.visits_course flow session inbound ledger
  have hending := h.stop.ending
  refine ⟨⟨(engine.visits flow session inbound ledger).map fun v => (v.report engine).outputs,
    run_responses engine flow session inbound ledger, ?_, fun i r group hr hgroup => ?_⟩,
    ⟨fun ⟨node, text, choices, ho⟩ => (run_closing ho rfl).1, fun ht => ?_⟩,
    ⟨fun ⟨node, text, ho⟩ => (run_closing ho rfl).1, fun ht => ?_⟩, fun o ho hc => ?_⟩
  · rw [show records = _ from engine.run_records flow session inbound ledger, List.length_map, List.length_mapIdx]
  · obtain ⟨v, hv, rfl⟩ := run_record hr
    rw [List.getElem?_map, hv] at hgroup
    cases hgroup
    have hputs := v.report_puts engine
    refine ⟨hputs.node?_eq, hputs.notice, v.node, visits_node? (List.mem_of_getElem? hv), ?_⟩
    intro before
    obtain ⟨hvars, hledger⟩ := visits_before hv
    rw [show before.1.session.vars = _ from hvars, show before.2 = _ from hledger]
    exact hputs
  · rw [show (engine.run flow session inbound ledger).1.termination = _ from ht] at hending
    obtain ⟨v, q, hv, hk, -⟩ := hending
    have hputs := v.report_puts engine
    rw [hk] at hputs
    have hmem : Output.question v.node.id (interpolate v.vars q.content) q.choices ∈ (v.report engine).outputs := by
      rw [hputs.question_eq]
      exact List.mem_cons_self
    exact ⟨_, _, _, mem_responses (List.mem_of_getLast? hv) hmem⟩
  · rw [show (engine.run flow session inbound ledger).1.termination = _ from ht] at hending
    obtain ⟨v, content, hv, hk, -⟩ := hending
    have hputs := v.report_puts engine
    rw [hk] at hputs
    have hmem : Output.transfer v.node.id (interpolate v.vars content) ∈ (v.report engine).outputs := by
      rw [hputs.transfer_eq]
      exact List.mem_cons_self
    exact ⟨_, _, mem_responses (List.mem_of_getLast? hv) hmem⟩
  · obtain ⟨reason, hr⟩ := Option.ne_none_iff_exists'.1 hc
    exact (run_closing ho hr).2

end Engine

end Dialogue
