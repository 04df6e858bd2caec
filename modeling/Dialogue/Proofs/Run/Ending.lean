/-
Where a run leaves the session. The reason why a run stopped says on which node the session stands and
whether it waits there: on the question that halted the run, on the node that ended it, on the node that
would have run next when the budget was spent, and otherwise on the node last executed, or where the run
began when it executed none.
-/
import Dialogue.Proofs.Run.Trail

namespace Dialogue

/-- A result parked on a question: the session waits on a question of the flow, the node last executed. -/
structure Parked (flow : Flow) (r : Result) (node : Node) (q : Question) : Prop where
  last : r.lastNode? = some node.id
  found : flow.node? node.id = some node
  kind : node.kind = .question q
  current : r.session.currentNode = some node.id
  waiting : r.session.waiting = true

theorem Result.completed_iff {r : Result} : r.completed = true ↔ r.termination ≠ .awaitingInput := by
  unfold completed Termination.isCompleted
  cases r.termination <;> simp

/-! ## By the reason -/

namespace Stop

variable {engine : Engine} {flow : Flow} {budget : Nat} {visits : List Visit} {p : Progress} {next : Option String}
  {r : Result × Ledger}

/-- A walk waits exactly when a question halted it. -/
theorem waiting_iff (h : Stop engine flow budget visits p next r) :
    r.1.session.waiting = true ↔ r.1.termination = .awaitingInput := by
  cases h with
  | exhausted => simp [Progress.release, Session.releaseAt]
  | dangling => simp [Progress.release, Session.releaseAt]
  | spent => simp [Progress.release, Session.releaseAt]
  | halted => simp [Progress.halt, Session.haltAt]
  | terminated _ hc =>
    rw [Visit.report_control] at hc
    rcases NodeKind.control_terminate hc with ⟨_, _, rfl⟩ | ⟨_, rfl⟩ <;>
      simp [Progress.release, Session.releaseAt]

/-- What the reason of the end says about the walk: on a question, an end or a transfer the last visit was
made there; the budget ran out in front of a node; and the graph runs out behind a node that leads nowhere, or
that leads to an unknown node. -/
theorem ending (h : Stop engine flow budget visits p next r) :
    match r.1.termination with
    | .awaitingInput =>
      ∃ v q, visits.getLast? = some v ∧ v.node.kind = .question q ∧ r.1.session.currentNode = some v.node.id
    | .ended => ∃ v, visits.getLast? = some v ∧ v.node.kind = .finish ∧ r.1.session.currentNode = some v.node.id
    | .transferred => ∃ v content, visits.getLast? = some v ∧ v.node.kind = .transfer content ∧
        r.1.session.currentNode = some v.node.id
    | .budgetExceeded limit => limit = engine.config.maxSteps ∧ visits.length = budget ∧
        ∃ id node, next = some id ∧ flow.node? id = some node ∧ r.1.session.currentNode = some id
    | .endOfGraph => r.1.session.currentNode = p.last ∧
        ((next = none ∧ ∀ v, visits.getLast? = some v → (v.report engine).control = .follow) ∨
          ∃ id, next = some id ∧ flow.node? id = none) := by
  cases h with
  | exhausted hf => exact ⟨rfl, .inl ⟨rfl, hf⟩⟩
  | dangling hn => exact ⟨rfl, .inr ⟨_, rfl, hn⟩⟩
  | @spent id node hn hb => exact ⟨rfl, hb, id, node, rfl, hn, rfl⟩
  | @halted v hv hc =>
    rw [Visit.report_control] at hc
    obtain ⟨q, hq⟩ := NodeKind.control_halt hc
    exact ⟨v, q, hv, hq, rfl⟩
  | @terminated v reason hv hc =>
    rw [Visit.report_control] at hc
    rcases NodeKind.control_terminate hc with ⟨content, hk, rfl⟩ | ⟨hk, rfl⟩
    · exact ⟨v, content, hv, hk, rfl⟩
    · exact ⟨v, hv, hk, rfl⟩

end Stop

namespace Engine

/-- Where a turn stands before its first step: on the question that it resumes, or else on the start node. -/
def origin? (flow : Flow) (session : Session) : Option String :=
  ((resumed? flow session).map (·.1.id)).or (flow.start?.map (·.id))

theorem opening_origin (flow : Flow) (session : Session) (inbound : String) :
    (opening flow session inbound).2 = origin? flow session := by
  unfold opening origin?
  cases resumed? flow session <;> rfl

theorem entrance?_eq (flow : Flow) (session : Option Session) (inbound : String) :
    entrance? flow session inbound = (origin? flow (session.getD .new)).bind flow.next? := by
  unfold entrance?
  rw [opening_origin]

/-- Only a flow without nodes leaves a turn nowhere to stand. -/
theorem origin?_eq_none_iff (flow : Flow) (session : Session) : origin? flow session = none ↔ flow.nodes = [] := by
  unfold origin?
  rw [Option.or_eq_none_iff, Option.map_eq_none_iff, Option.map_eq_none_iff, Flow.start?_eq_none_iff]
  refine ⟨And.right, fun h => ⟨?_, h⟩⟩
  unfold resumed? Flow.node?
  rw [h]
  cases session.awaiting <;> rfl

namespace Course

variable {engine : Engine} {flow : Flow} {session : Option Session} {inbound : String} {ledger : Ledger}
  {visits : List Visit} {next : Option String} {p : Progress}

theorem last_found (h : Course engine flow session inbound ledger visits next p) {v : Visit}
    (hv : visits.getLast? = some v) : (engine.run flow session inbound ledger).1.lastNode? = some v.node.id ∧
      flow.node? v.node.id = some v.node := by
  rw [h.lastNode?_eq, hv]
  exact ⟨rfl, h.trail.node?_visit v (List.mem_of_getLast? hv)⟩

/-- A run that awaits input is parked on the question that it asked last. -/
theorem parked (h : Course engine flow session inbound ledger visits next p)
    (hr : (engine.run flow session inbound ledger).1.termination = .awaitingInput) :
    ∃ node q, Parked flow (engine.run flow session inbound ledger).1 node q := by
  have hending := h.stop.ending
  rw [hr] at hending
  obtain ⟨v, q, hv, hk, hc⟩ := hending
  obtain ⟨hlast, hfound⟩ := h.last_found hv
  exact ⟨v.node, q, hlast, hfound, hk, hc, h.stop.waiting_iff.2 hr⟩

theorem ended (h : Course engine flow session inbound ledger visits next p)
    (hr : (engine.run flow session inbound ledger).1.termination = .ended) :
    let result := (engine.run flow session inbound ledger).1
    ∃ node, result.lastNode? = some node.id ∧ flow.node? node.id = some node ∧
      node.kind = .finish ∧ result.session.currentNode = some node.id := by
  have hending := h.stop.ending
  rw [hr] at hending
  obtain ⟨v, hv, hk, hc⟩ := hending
  obtain ⟨hlast, hfound⟩ := h.last_found hv
  exact ⟨v.node, hlast, hfound, hk, hc⟩

theorem transferred (h : Course engine flow session inbound ledger visits next p)
    (hr : (engine.run flow session inbound ledger).1.termination = .transferred) :
    let result := (engine.run flow session inbound ledger).1
    ∃ node content, result.lastNode? = some node.id ∧ flow.node? node.id = some node ∧
      node.kind = .transfer content ∧ result.session.currentNode = some node.id := by
  have hending := h.stop.ending
  rw [hr] at hending
  obtain ⟨v, content, hv, hk, hc⟩ := hending
  obtain ⟨hlast, hfound⟩ := h.last_found hv
  exact ⟨v.node, content, hlast, hfound, hk, hc⟩

/-- The node that would run next, when the budget is spent. -/
theorem spent (h : Course engine flow session inbound ledger visits next p) {limit : Nat}
    (hr : (engine.run flow session inbound ledger).1.termination = .budgetExceeded limit) :
    let result := (engine.run flow session inbound ledger).1
    limit = engine.config.maxSteps ∧ result.steps = engine.config.maxSteps ∧
      ∃ node, flow.node? node.id = some node ∧ result.session.currentNode = some node.id ∧
        (engine.config.maxSteps = 0 → (origin? flow (session.getD .new)).bind flow.next? = some node.id) ∧
        (engine.config.maxSteps ≠ 0 → ∃ last, result.lastNode? = some last.id ∧ flow.node? last.id = some last ∧
          flow.onward last (last.kind.control result.session.vars) = some node.id) := by
  have hending := h.stop.ending
  rw [hr] at hending
  obtain ⟨hlimit, hlength, id, node, hnext, hn, hc⟩ := hending
  refine ⟨hlimit, h.steps_eq.trans hlength, node, Flow.node?_self hn, by rw [hc, Flow.node?_id hn], ?_, ?_⟩
  · intro hz
    rw [hz, List.length_eq_zero_iff] at hlength
    subst hlength
    rw [← entrance?_eq flow session inbound, ← h.trail.next_of_none rfl, hnext, Flow.node?_id hn]
  · intro hz
    rw [← hlength] at hz
    obtain ⟨v, hv⟩ : ∃ v, visits.getLast? = some v :=
      Option.isSome_iff_exists.1 (List.getLast?_isSome.2 fun he => hz (by rw [he]; rfl))
    obtain ⟨hlast, hfound⟩ := h.last_found hv
    refine ⟨v.node, hlast, hfound, ?_⟩
    rw [h.vars_eq hv, Visit.control_report_vars, ← h.trail.next_of_last hv, hnext, Flow.node?_id hn]

theorem exhausted (h : Course engine flow session inbound ledger visits next p)
    (hr : (engine.run flow session inbound ledger).1.termination = .endOfGraph) :
    (engine.run flow session inbound ledger).1.session.currentNode =
        (engine.run flow session inbound ledger).1.lastNode?.or (origin? flow (session.getD .new)) ∧
      ((next = none ∧ ∀ v, visits.getLast? = some v → (v.report engine).control = .follow) ∨
        ∃ id, next = some id ∧ flow.node? id = none) := by
  have hending := h.stop.ending
  rw [hr] at hending
  refine ⟨?_, hending.2⟩
  rw [hending.1, h.trail.last_eq, h.lastNode?_eq, ← opening_origin flow _ inbound]
  rfl

end Course

/-! ## The session of every result -/

/-- Whatever the flow, the settings, the session, the message and the services: a turn is completed unless
it awaits input, and then alone its session waits; and the session stands on the node that the reason of the
turn's end names. -/
theorem run_session_of_termination (engine : Engine) (flow : Flow) (session : Option Session) (inbound : String)
    (ledger : Ledger) :
    let result := (engine.run flow session inbound ledger).1
    (result.completed = true ↔ result.termination ≠ .awaitingInput) ∧
    (result.completed = true ↔ result.session.waiting = false) ∧
    match result.termination with
    | .awaitingInput => ∃ node q, Parked flow result node q
    | .ended => ∃ node, result.lastNode? = some node.id ∧ flow.node? node.id = some node ∧
        node.kind = .finish ∧ result.session.currentNode = some node.id
    | .transferred => ∃ node content, result.lastNode? = some node.id ∧ flow.node? node.id = some node ∧
        node.kind = .transfer content ∧ result.session.currentNode = some node.id
    | .budgetExceeded limit => limit = engine.config.maxSteps ∧ result.steps = engine.config.maxSteps ∧
        ∃ node, flow.node? node.id = some node ∧ result.session.currentNode = some node.id ∧
          (engine.config.maxSteps = 0 → (origin? flow (session.getD .new)).bind flow.next? = some node.id) ∧
          (engine.config.maxSteps ≠ 0 → ∃ last, result.lastNode? = some last.id ∧ flow.node? last.id = some last ∧
            flow.onward last (last.kind.control result.session.vars) = some node.id)
    | .endOfGraph =>
        result.session.currentNode = result.lastNode?.or (origin? flow (session.getD .new)) ∧
          (result.session.currentNode = none ↔ flow.nodes = []) := by
  obtain ⟨visits, next, p, h⟩ := run_course engine flow session inbound ledger
  intro result
  have hwaiting : result.session.waiting = true ↔ result.termination = .awaitingInput := h.stop.waiting_iff
  refine ⟨Result.completed_iff, ?_, ?_⟩
  · rw [Result.completed_iff, ne_eq, ← hwaiting, Bool.not_eq_true]
  · cases hr : result.termination with
    | awaitingInput => exact h.parked hr
    | ended => exact h.ended hr
    | transferred => exact h.transferred hr
    | budgetExceeded limit => exact h.spent hr
    | endOfGraph =>
      have hc := (h.exhausted hr).1
      refine ⟨hc, ?_⟩
      rw [show result.session.currentNode = _ from hc, Option.or_eq_none_iff, origin?_eq_none_iff]
      refine ⟨And.right, fun hn => ⟨?_, hn⟩⟩
      rw [h.lastNode?_eq, Option.map_eq_none_iff]
      -- a visited node would be a node of the flow
      cases hv : visits.getLast? with
      | none => rfl
      | some v =>
        have := Flow.node?_mem (h.last_found hv).2
        rw [hn] at this
        cases this

end Engine

end Dialogue
