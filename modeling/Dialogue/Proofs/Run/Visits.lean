/-
The visits of a run, computed from the flow, the session and the services: one for each record of the trace,
each on the variables and the ledger that the one before it left. A visit writes at most what comes back of
its call, so at any point of a run the variables are those with which it began, overwritten by the writes of
the visits made so far.
-/
import Dialogue.Proofs.Run.Trail
import Dialogue.Proofs.Variables.Write

namespace Dialogue

/-! ## Calls -/

namespace Engine

/-- What a webhook node sees of the answer to its call: a response, or why there is none. -/
def webhookOutcome (engine : Engine) (w : Webhook) (vars : Variables) (ledger : Ledger) :
    Except Failure WebhookResponse :=
  let request := webhookRequest engine.config w vars
  ((engine.services.webhook ledger.webhooks.length request).within engine.services.timer request.timeoutMs).1

/-- What a node for a generated reply sees of the answer to its request. -/
def aiOutcome (engine : Engine) (p : Prompt) (vars : Variables) (ledger : Ledger) : Except Failure AiResponse :=
  ((engine.services.ai ledger.ais.length (aiRequest p vars)).within engine.services.timer engine.config.aiTimeoutMs).1

end Engine

/-- What is kept of an outcome: the value of the answer, or else the marker of the failure. -/
def Failure.markerOr {α : Type} (value : α → Value) : Except Failure α → Value
  | .ok answer => value answer
  | .error failure => failure.marker

theorem Engine.stepWebhook_vars (engine : Engine) (id : String) (w : Webhook) (vars : Variables) (ledger : Ledger) :
    (engine.stepWebhook id w vars ledger).vars =
      vars.store w.variableName (Failure.markerOr WebhookResponse.value (engine.webhookOutcome w vars ledger)) := by
  unfold stepWebhook webhookOutcome
  simp only
  split <;> rename_i h <;> rw [h] <;> rfl

theorem Engine.stepAi_vars (engine : Engine) (id : String) (p : Prompt) (vars : Variables) (ledger : Ledger) :
    (engine.stepAi id p vars ledger).vars =
      vars.store p.variableName (Failure.markerOr (.text ·.text) (engine.aiOutcome p vars ledger)) := by
  unfold stepAi aiOutcome
  simp only
  split <;> rename_i h <;> rw [h] <;> rfl

/-- What a step at a node leaves whose call has failed: no detail, the marker of the failure in the node's
variable, and a notice that ends with the message of the failure. -/
structure StepReport.Fails (r : StepReport) (node : Node) (vars : Variables) (failure : Failure) : Prop where
  detail : r.detail = none
  vars : ∃ name, node.variableName? = some name ∧ r.vars = vars.store name failure.marker
  notice : ∃ lead, .system (some node.id) (lead ++ failure.message) ∈ r.outputs

theorem Engine.fails_of_failure {engine : Engine} {node : Node} {vars : Variables} {ledger : Ledger}
    {failure : Failure} (h : (engine.step node vars ledger).failure = some failure) :
    (engine.step node vars ledger).Fails node vars failure := by
  obtain ⟨id, label, kind⟩ := node
  rcases kind_of_failure h with ⟨w, rfl⟩ | ⟨p, rfl⟩
  · change (engine.stepWebhook id w vars ledger).failure = _ at h
    change (engine.stepWebhook id w vars ledger).Fails _ _ _
    unfold stepWebhook at h ⊢
    simp only at h ⊢
    split at h <;> cases h
    exact ⟨rfl, ⟨_, rfl, rfl⟩, ⟨_, List.mem_cons_self⟩⟩
  · change (engine.stepAi id p vars ledger).failure = _ at h
    change (engine.stepAi id p vars ledger).Fails _ _ _
    unfold stepAi at h ⊢
    simp only at h ⊢
    split at h <;> cases h
    exact ⟨rfl, ⟨_, rfl, rfl⟩, ⟨_, List.mem_cons_self⟩⟩

/-- Behind a call that failed, its node's variable holds the marker of the failure. -/
theorem Engine.vars_of_failure {engine : Engine} {node : Node} {vars : Variables} {ledger : Ledger} {name : String}
    {failure : Failure} (hname : node.variableName? = some name)
    (h : (engine.step node vars ledger).failure = some failure) :
    (engine.step node vars ledger).vars = vars.store name failure.marker := by
  obtain ⟨-, ⟨name', hname', hvars⟩, -⟩ := fails_of_failure h
  rw [hname] at hname'
  cases hname'
  exact hvars

/-- The remark on a call that failed is the message of the failure. -/
theorem Engine.remark_of_failure {engine : Engine} {node : Node} {vars : Variables} {ledger : Ledger}
    {failure : Failure} (h : (engine.step node vars ledger).failure = some failure) :
    (engine.step node vars ledger).remark = some failure.message := by
  unfold StepReport.remark
  rw [(fails_of_failure h).detail, h]
  rfl

/-! ## Writes -/

/-- The variable in which a node keeps what comes back of its call, if it has a name. -/
def Node.replyVariable? (n : Node) : Option String := if n.question?.isSome then none else n.target?

namespace Visit

/-- What comes back of the visit's call, as it is kept. -/
def reply? (engine : Engine) (v : Visit) : Option Value := match v.node.kind with
  | .webhook w => some (Failure.markerOr WebhookResponse.value (engine.webhookOutcome w v.vars v.ledger))
  | .aiResponse p => some (Failure.markerOr (.text ·.text) (engine.aiOutcome p v.vars v.ledger))
  | _ => none

/-- What the visit writes: its reply, under the variable of its node. -/
def write? (engine : Engine) (v : Visit) : Option (String × Value) := do
  let value ← v.reply? engine
  v.node.replyVariable?.map (·, value)

/-- A visit changes nothing in the variables but by its write. -/
theorem report_vars (engine : Engine) (v : Visit) :
    (v.report engine).vars = v.vars.overwrite (v.write? engine).toList := by
  obtain ⟨⟨id, label, kind⟩, vars, ledger⟩ := v
  unfold report Engine.step
  cases kind with
  | condition branches => exact Engine.stepCondition_vars id branches vars ledger
  | webhook w =>
    show (engine.stepWebhook id w vars ledger).vars = _
    rw [Engine.stepWebhook_vars, Variables.store_eq_overwrite]
    rfl
  | aiResponse p =>
    show (engine.stepAi id p vars ledger).vars = _
    rw [Engine.stepAi_vars, Variables.store_eq_overwrite]
    rfl
  | _ => rfl

/-- A node that has a variable for its reply gets one. -/
theorem write?_fst (engine : Engine) (v : Visit) : (v.write? engine).map (·.1) = v.node.replyVariable? := by
  have hkept (value : Value) : (v.node.replyVariable?.map (·, value)).map (·.1) = v.node.replyVariable? := by
    cases v.node.replyVariable? <;> rfl
  unfold write? reply?
  cases hk : v.node.kind with
  | webhook w => exact hkept _
  | aiResponse p => exact hkept _
  | _ => unfold Node.replyVariable? Node.question? Node.target? Node.variableName?; rw [hk]; rfl

end Visit

/-! ## The visits of a run -/

namespace Engine

/-- The visits of a walk that goes on to a node id, with a number of steps left. -/
def visitsFrom (engine : Engine) (flow : Flow) : Nat → Option String → Variables → Ledger → List Visit
  | 0, _, _, _ => []
  | remaining + 1, next, vars, ledger =>
    match next.bind flow.node? with
    | none => []
    | some node =>
      let r := engine.step node vars ledger
      ⟨node, vars, ledger⟩ :: engine.visitsFrom flow remaining (flow.onward node r.control) r.vars r.ledger

theorem visitsFrom_of_found {engine : Engine} {flow : Flow} {id : String} {node : Node}
    (h : flow.node? id = some node) (remaining : Nat) (vars : Variables) (ledger : Ledger) :
    engine.visitsFrom flow (remaining + 1) (some id) vars ledger =
      ⟨node, vars, ledger⟩ :: engine.visitsFrom flow remaining
        (flow.onward node (engine.step node vars ledger).control) (engine.step node vars ledger).vars
        (engine.step node vars ledger).ledger := by
  rw [visitsFrom, Option.bind_some, h]

/-- The visits of a turn. -/
def visits (engine : Engine) (flow : Flow) (session : Option Session) (inbound : String) (ledger : Ledger) :
    List Visit :=
  engine.visitsFrom flow engine.config.maxSteps (entrance? flow session inbound)
    (opening flow (session.getD .new) inbound).1.vars ledger

/-- The variables of a turn when it has made a number of steps: those with which it began to walk, and what
these steps wrote. -/
def varsAfter (engine : Engine) (flow : Flow) (session : Option Session) (inbound : String) (ledger : Ledger)
    (steps : Nat) : Variables :=
  (opening flow (session.getD .new) inbound).1.vars.overwrite
    (((engine.visits flow session inbound ledger).take steps).filterMap (Visit.write? engine))

end Engine

section Trail

variable {engine : Engine} {flow : Flow} {entry : Option String} {origin : Progress} {visits : List Visit}
  {next : Option String} {p : Progress}

/-- The visits of a trail come first, and then those of the walk that goes on from it. -/
theorem Trail.visitsFrom_eq (h : Trail engine flow entry origin visits next p) (remaining : Nat) :
    engine.visitsFrom flow (visits.length + remaining) entry origin.session.vars origin.ledger =
      visits ++ engine.visitsFrom flow remaining next p.session.vars p.ledger := by
  induction h generalizing remaining with
  | start => rw [List.length_nil, Nat.zero_add, List.nil_append]
  | @visit visits id p node _ hn ih =>
    -- the last visit is the first one of the walk that goes on from the trail before it
    rw [List.length_append, List.length_singleton, Nat.add_assoc, Nat.add_comm 1, ih (remaining + 1),
      Engine.visitsFrom_of_found hn, List.append_assoc]
    rfl

/-- A walk that has stopped makes no more visits. -/
theorem Stop.visitsFrom_eq_nil {budget : Nat} {r : Result × Ledger} (h : Stop engine flow budget visits p next r) :
    engine.visitsFrom flow (budget - visits.length) next p.session.vars p.ledger = [] := by
  cases hb : budget - visits.length with
  | zero => rfl
  | succ remaining =>
    unfold Engine.visitsFrom
    cases h with
    | dangling hn => rw [Option.bind_some, hn]
    | spent _ hs => omega
    | exhausted => rfl
    | halted => rfl
    | terminated => rfl

/-- A trail can be cut in front of each of its visits. -/
theorem Trail.cut (h : Trail engine flow entry origin visits next p) {i : Nat} {v : Visit}
    (hv : visits[i]? = some v) : ∃ p', Trail engine flow entry origin (visits.take i) (some v.node.id) p' ∧
      v.vars = p'.session.vars ∧ v.ledger = p'.ledger := by
  induction h with
  | start => cases hv
  | @visit visits id p node ht hn ih =>
    -- the last visit is made where the trail before it stands, and any other is one of that trail
    rcases Nat.lt_trichotomy i visits.length with hi | hi | hi
    · rw [List.getElem?_append_left hi] at hv
      rw [List.take_append_of_le_length (Nat.le_of_lt hi)]
      exact ih hv
    · rw [hi, List.getElem?_concat_length] at hv
      cases hv
      rw [hi, List.take_left', Flow.node?_id hn]
      · exact ⟨p, ht, rfl, rfl⟩
      · rfl
    · rw [List.getElem?_eq_none (by simp; omega)] at hv
      cases hv

/-- What a trail has written. -/
theorem Trail.vars_overwritten (h : Trail engine flow entry origin visits next p) :
    p.session.vars = origin.session.vars.overwrite (visits.filterMap (Visit.write? engine)) := by
  induction h with
  | start => rfl
  | @visit visits id p node _ _ ih =>
    rw [List.filterMap_append, Variables.overwrite_append, ← ih]
    show (Visit.report engine ⟨node, p.session.vars, p.ledger⟩).vars = _
    rw [Visit.report_vars, List.filterMap_cons, List.filterMap_nil]
    cases Visit.write? engine ⟨node, p.session.vars, p.ledger⟩ <;> rfl

end Trail

namespace Engine

variable (engine : Engine) (flow : Flow) (session : Option Session) (inbound : String) (ledger : Ledger)

/-- The visits of a turn are those that its run makes. -/
theorem visits_course : ∃ next p, Course engine flow session inbound ledger
    (engine.visits flow session inbound ledger) next p := by
  obtain ⟨visits, next, p, h⟩ := run_course engine flow session inbound ledger
  have hv : engine.visits flow session inbound ledger = visits := by
    have heq := h.trail.visitsFrom_eq (engine.config.maxSteps - visits.length)
    rw [Nat.add_sub_cancel' h.length_le, h.stop.visitsFrom_eq_nil, List.append_nil] at heq
    exact heq
  rw [hv]
  exact ⟨next, p, h⟩

/-- Every record of a run is that of a visit. -/
theorem run_records : (engine.run flow session inbound ledger).1.trace.steps =
    (engine.visits flow session inbound ledger).mapIdx fun i v => v.record engine (i + 1) := by
  obtain ⟨next, p, h⟩ := engine.visits_course flow session inbound ledger
  exact h.records_eq

theorem run_steps : (engine.run flow session inbound ledger).1.steps =
      (engine.run flow session inbound ledger).1.trace.steps.length ∧
    (engine.run flow session inbound ledger).1.trace.steps.length ≤ engine.config.maxSteps := by
  obtain ⟨next, p, h⟩ := engine.visits_course flow session inbound ledger
  rw [h.steps_eq, h.records_eq, List.length_mapIdx]
  exact ⟨rfl, h.length_le⟩

theorem run_vars : (engine.run flow session inbound ledger).1.session.vars =
    engine.varsAfter flow session inbound ledger (engine.visits flow session inbound ledger).length := by
  obtain ⟨next, p, h⟩ := engine.visits_course flow session inbound ledger
  unfold varsAfter
  rw [h.stop.vars_eq, h.trail.vars_overwritten, List.take_length]
  rfl

variable {engine flow session inbound ledger}

/-- A visit is made at a node of the flow. -/
theorem visits_node? {v : Visit} (hv : v ∈ engine.visits flow session inbound ledger) :
    flow.node? v.node.id = some v.node := by
  obtain ⟨next, p, h⟩ := engine.visits_course flow session inbound ledger
  exact h.trail.node?_visit v hv

/-- A visit finds what the visits before it have written, and nothing else. -/
theorem visits_vars {i : Nat} {v : Visit} (hv : (engine.visits flow session inbound ledger)[i]? = some v) :
    v.vars = engine.varsAfter flow session inbound ledger i := by
  obtain ⟨next, p, h⟩ := engine.visits_course flow session inbound ledger
  obtain ⟨p', ht, hvars, -⟩ := h.trail.cut hv
  rw [hvars, ht.vars_overwritten]
  rfl

/-- A step leaves what its visit reports. -/
theorem varsAfter_succ {i : Nat} {v : Visit} (hv : (engine.visits flow session inbound ledger)[i]? = some v) :
    engine.varsAfter flow session inbound ledger (i + 1) = (v.report engine).vars := by
  rw [Visit.report_vars, visits_vars hv]
  unfold varsAfter
  rw [List.take_add_one, hv, List.filterMap_append, Variables.overwrite_append]
  cases hw : v.write? engine <;> simp [hw]

end Engine

end Dialogue
