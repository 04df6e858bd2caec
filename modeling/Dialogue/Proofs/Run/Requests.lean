/-
What a run hands to the outside: one request for every record of a webhook, of a generated reply or of an
action, in the order of the records, however the call ends, and no other. A request is made of its node and of
the variables as the steps before it have left them.
-/
import Mathlib.Data.List.Forall2
import Dialogue.Proofs.Run.Visits

namespace Dialogue

/-! ## Requests -/

/-- Something that a run hands to the outside. -/
inductive Request
  | webhook (r : WebhookRequest)
  | ai (r : AiRequest)
  | action (r : ActionRequest)

namespace Request

/-- The request of a request for a web service. -/
def webhook? : Request → Option WebhookRequest
  | .webhook r => some r
  | _ => none

/-- The request of a request for a generated reply. -/
def ai? : Request → Option AiRequest
  | .ai r => some r
  | _ => none

/-- The request of a request for an action. -/
def action? : Request → Option ActionRequest
  | .action r => some r
  | _ => none

/-- A request says what a node asks for: its templates are filled in from the variables, all else is passed
on as the node has it, and a webhook without a time limit has that of the settings. -/
def OfNode (config : Config) (vars : Variables) (node : Node) : Request → Prop
  | .webhook r => ∃ w, node.kind = .webhook w ∧ r.url = interpolate vars w.url ∧
      r.method = Text.upper (Text.trim w.method) ∧ r.headers.keys = w.headers.keys ∧
      (∀ name, r.headers.get? name = (w.headers.get? name).map (interpolate vars)) ∧
      r.body = w.body.map (interpolateValue vars) ∧ r.timeoutMs = w.timeoutMs.getD config.webhookTimeoutMs
  | .ai r => ∃ p, node.kind = .aiResponse p ∧ r.system = interpolate vars p.system ∧
      r.user = interpolate vars p.user ∧ r.model = p.model ∧ r.temperature = p.temperature ∧
      r.maxTokens = p.maxTokens
  | .action r => ∃ a, node.kind = .action a ∧ r.name = a.name ∧ r.payload = interpolateValue vars a.payload

end Request

/-- Whether a record is that of a node with a request. -/
def StepRecord.isCall (r : StepRecord) : Bool := ["action", "webhook", "ai_response"].contains r.kind

/-- A later ledger holds some requests more than an earlier one, those of each service in their order. -/
structure Ledger.Adds (before after : Ledger) (requests : List Request) : Prop where
  webhooks : after.webhooks = before.webhooks ++ requests.filterMap Request.webhook?
  ais : after.ais = before.ais ++ requests.filterMap Request.ai?
  actions : after.actions = before.actions ++ requests.filterMap Request.action?

namespace Ledger.Adds

theorem refl (l : Ledger) : Adds l l [] :=
  ⟨(List.append_nil _).symm, (List.append_nil _).symm, (List.append_nil _).symm⟩

theorem trans {a b c : Ledger} {first last : List Request} (h : Adds a b first) (h' : Adds b c last) :
    Adds a c (first ++ last) := by
  refine ⟨?_, ?_, ?_⟩
  · rw [h'.webhooks, h.webhooks, List.filterMap_append, List.append_assoc]
  · rw [h'.ais, h.ais, List.filterMap_append, List.append_assoc]
  · rw [h'.actions, h.actions, List.filterMap_append, List.append_assoc]

end Ledger.Adds

/-! ## One step -/

namespace Visit

/-- What the visit hands to the outside. -/
def request? (engine : Engine) (v : Visit) : Option Request := match v.node.kind with
  | .webhook w => some (.webhook (Engine.webhookRequest engine.config w v.vars))
  | .aiResponse p => some (.ai (Engine.aiRequest p v.vars))
  | .action a => some (.action ⟨a.name, interpolateValue v.vars a.payload⟩)
  | _ => none

/-- A visit hands out its request once, whether its call fails or not. -/
theorem report_ledger (engine : Engine) (v : Visit) :
    Ledger.Adds v.ledger (v.report engine).ledger (v.request? engine).toList := by
  obtain ⟨⟨id, label, kind⟩, vars, ledger⟩ := v
  unfold report Engine.step
  cases kind with
  | condition branches =>
    show Ledger.Adds ledger (Engine.stepCondition id branches vars ledger).ledger []
    unfold Engine.stepCondition
    cases Engine.takenBranch? vars branches <;> exact .refl ledger
  | action a => exact ⟨(List.append_nil _).symm, (List.append_nil _).symm, rfl⟩
  | webhook w =>
    show Ledger.Adds ledger (engine.stepWebhook id w vars ledger).ledger [_]
    unfold Engine.stepWebhook
    simp only
    split <;> exact ⟨rfl, (List.append_nil _).symm, (List.append_nil _).symm⟩
  | aiResponse p =>
    show Ledger.Adds ledger (engine.stepAi id p vars ledger).ledger [_]
    unfold Engine.stepAi
    simp only
    split <;> exact ⟨(List.append_nil _).symm, rfl, (List.append_nil _).symm⟩
  | delay d => exact ⟨(List.append_nil _).symm, (List.append_nil _).symm, (List.append_nil _).symm⟩
  | _ => exact .refl ledger

/-- The request of a visit is that of its node, made of the variables that the visit finds. -/
theorem request?_ofNode {engine : Engine} {v : Visit} {request : Request} (h : v.request? engine = some request) :
    request.OfNode engine.config v.vars v.node := by
  unfold request? at h
  split at h
  · rename_i w hk
    cases h
    refine ⟨w, hk, rfl, rfl, ?_, fun name => ?_, rfl, rfl⟩
    · exact Dictionary.keys_map ..
    · exact Dictionary.get?_map ..
  · rename_i p hk
    cases h
    exact ⟨p, hk, rfl, rfl, rfl, rfl, rfl⟩
  · rename_i a hk
    cases h
    exact ⟨a, hk, rfl, rfl⟩
  · cases h

/-- The records of the visits with a request can be told by their kind. -/
theorem isCall_record (engine : Engine) (number : Nat) (v : Visit) :
    (v.record engine number).isCall = (v.request? engine).isSome := by
  obtain ⟨⟨id, label, kind⟩, vars, ledger⟩ := v
  unfold record StepRecord.isCall request?
  cases kind <;> rfl

end Visit

/-! ## All steps -/

theorem Trail.ledger_adds {engine : Engine} {flow : Flow} {entry : Option String} {origin p : Progress}
    {visits : List Visit} {next : Option String} (h : Trail engine flow entry origin visits next p) :
    Ledger.Adds origin.ledger p.ledger (visits.filterMap (Visit.request? engine)) := by
  induction h with
  | start => exact .refl _
  | @visit visits id p node _ _ ih =>
    rw [List.filterMap_append]
    refine ih.trans ?_
    have hstep := Visit.report_ledger engine ⟨node, p.session.vars, p.ledger⟩
    rw [List.filterMap_cons, List.filterMap_nil]
    cases hr : Visit.request? engine ⟨node, p.session.vars, p.ledger⟩ <;> rw [hr] at hstep <;> exact hstep

/-- Two lists that are made of the same members, one of the images that pass a test and one of the values
where there are any, correspond when test and value agree on each member. -/
theorem forall₂_filter_filterMap {α β γ : Type} {R : β → γ → Prop} {f : α → β} {p : β → Bool} {g : α → Option γ}
    {xs : List α} (h : ∀ x ∈ xs, p (f x) = (g x).isSome ∧ ∀ y, g x = some y → R (f x) y) :
    List.Forall₂ R ((xs.map f).filter p) (xs.filterMap g) := by
  induction xs with
  | nil => exact .nil
  | cons x rest ih =>
    have hrest := ih fun y hy => h y (List.mem_cons_of_mem _ hy)
    obtain ⟨hp, hR⟩ := h x List.mem_cons_self
    rw [List.map_cons, List.filter_cons, List.filterMap_cons]
    cases hg : g x with
    | none =>
      rw [if_neg (by rw [hp, hg]; exact Bool.false_ne_true)]
      exact hrest
    | some y =>
      rw [if_pos (by rw [hp, hg]; rfl)]
      exact .cons (hR y hg) hrest

namespace Engine

/-- Whatever the flow, the settings, the session, the message and the services: the requests that a run hands
out are, in order, those of the records of webhooks, of generated replies and of actions, each made of its node
and of what the steps before it have left in the variables. -/
theorem run_requests (engine : Engine) (flow : Flow) (session : Option Session) (inbound : String)
    (ledger : Ledger) :
    let records := (engine.run flow session inbound ledger).1.trace.steps
    let visits := engine.visits flow session inbound ledger
    records = visits.mapIdx (fun i v => v.record engine (i + 1)) ∧
    (∀ i v, visits[i]? = some v → v.vars = engine.varsAfter flow session inbound ledger i) ∧
    ∃ requests, Ledger.Adds ledger (engine.run flow session inbound ledger).2 requests ∧
      List.Forall₂ (fun (r : StepRecord) (request : Request) => ∃ n node, r.step = n + 1 ∧
          flow.node? r.node = some node ∧
          request.OfNode engine.config (engine.varsAfter flow session inbound ledger n) node)
        (records.filter StepRecord.isCall) requests := by
  intro records visits
  have hrecords : records = visits.mapIdx (fun i v => v.record engine (i + 1)) :=
    engine.run_records flow session inbound ledger
  obtain ⟨next, p, h⟩ := engine.visits_course flow session inbound ledger
  refine ⟨hrecords, fun i v hv => visits_vars hv, visits.filterMap (Visit.request? engine), ?_, ?_⟩
  · rw [h.stop.ledger_eq]
    exact h.trail.ledger_adds
  · -- each visit with its place, which is the number of steps in front of it
    have hvisits : visits = visits.zipIdx.map (·.1) := (List.zipIdx_map_fst ..).symm
    rw [hrecords, List.mapIdx_eq_zipIdx_map]
    conv => rhs; rw [hvisits, List.filterMap_map]
    refine forall₂_filter_filterMap fun ⟨v, i⟩ hi => ⟨v.isCall_record engine (i + 1), fun request hr => ?_⟩
    have hv : visits[i]? = some v := List.mem_zipIdx_iff_getElem?.1 hi
    refine ⟨i, v.node, rfl, visits_node? (List.mem_of_getElem? hv), ?_⟩
    rw [← visits_vars hv]
    exact Visit.request?_ofNode hr

end Engine

end Dialogue
