/-
One step and the way on. Where a step sends the walk is a function of the kind of the node and of the
variables (`NodeKind.control`): neither the services nor the settings have a say, and a condition finds
after its step the same variables as before it.
-/
import Dialogue.Flow.Reach
import Dialogue.Run.Walk

namespace Dialogue

/-! ## Control -/

/-- Where a node of a kind sends the walk. -/
def NodeKind.control (vars : Variables) : NodeKind → Control
  | .condition branches => match Engine.takenBranch? vars branches with
    | some b => .jump b.target
    | none => .follow
  | .question _ => .halt
  | .transfer _ => .terminate .transferred
  | .finish => .terminate .ended
  | _ => .follow

theorem Engine.stepCondition_control (id : String) (branches : List Branch) (vars : Variables) (ledger : Ledger) :
    (stepCondition id branches vars ledger).control = NodeKind.control vars (.condition branches) := by
  simp only [stepCondition, NodeKind.control]
  cases takenBranch? vars branches <;> rfl

theorem Engine.stepCondition_vars (id : String) (branches : List Branch) (vars : Variables) (ledger : Ledger) :
    (stepCondition id branches vars ledger).vars = vars := by
  unfold stepCondition
  cases takenBranch? vars branches <;> rfl

theorem Engine.step_control (engine : Engine) (node : Node) (vars : Variables) (ledger : Ledger) :
    (engine.step node vars ledger).control = node.kind.control vars := by
  unfold step
  cases node.kind with
  | condition branches => exact stepCondition_control node.id branches vars ledger
  | webhook w =>
    show (engine.stepWebhook node.id w vars ledger).control = _
    unfold stepWebhook
    simp only
    split <;> rfl
  | aiResponse p =>
    show (engine.stepAi node.id p vars ledger).control = _
    unfold stepAi
    simp only
    split <;> rfl
  | _ => rfl

/-- Only conditions look at the variables, and they leave them alone. -/
theorem Engine.control_step_vars (engine : Engine) (node : Node) (vars : Variables) (ledger : Ledger) :
    node.kind.control (engine.step node vars ledger).vars = node.kind.control vars := by
  unfold step
  cases node.kind with
  | condition branches =>
    show NodeKind.control (stepCondition node.id branches vars ledger).vars _ = _
    rw [stepCondition_vars]
  | _ => rfl

namespace NodeKind

variable {vars : Variables} {kind : NodeKind}

theorem control_jump {target : String} (h : kind.control vars = .jump target) :
    ∃ branches b, kind = .condition branches ∧ Engine.takenBranch? vars branches = some b ∧ b.target = target := by
  cases kind with
  | condition branches =>
    unfold control at h
    cases hb : Engine.takenBranch? vars branches with
    | none => simp [hb] at h
    | some b =>
      simp only [hb, Control.jump.injEq] at h
      exact ⟨branches, b, rfl, hb, h⟩
  | _ => cases h

theorem control_halt (h : kind.control vars = .halt) : ∃ q, kind = .question q := by
  cases kind with
  | question q => exact ⟨q, rfl⟩
  | condition branches =>
    unfold control at h
    cases hb : Engine.takenBranch? vars branches <;> simp [hb] at h
  | _ => cases h

/-- A walk is ended for good by a transfer or by an end, each with its own reason. -/
theorem control_terminate {reason : Termination} (h : kind.control vars = .terminate reason) :
    (∃ content, kind = .transfer content ∧ reason = .transferred) ∨ (kind = .finish ∧ reason = .ended) := by
  cases kind with
  | transfer content => cases h; exact .inl ⟨content, rfl, rfl⟩
  | finish => cases h; exact .inr ⟨rfl, rfl⟩
  | condition branches =>
    unfold control at h
    cases hb : Engine.takenBranch? vars branches <;> simp [hb] at h
  | _ => cases h

end NodeKind

/-- Only calls fail. -/
theorem Engine.kind_of_failure {engine : Engine} {node : Node} {vars : Variables} {ledger : Ledger}
    {failure : Failure} (h : (engine.step node vars ledger).failure = some failure) :
    (∃ w, node.kind = .webhook w) ∨ ∃ p, node.kind = .aiResponse p := by
  unfold step at h
  cases hk : node.kind with
  | webhook w => exact .inl ⟨w, rfl⟩
  | aiResponse p => exact .inr ⟨p, rfl⟩
  | condition branches =>
    simp only [hk, stepCondition] at h
    split at h <;> cases h
  | _ => rw [hk] at h; cases h

/-- A walk goes on behind a call that has failed. -/
theorem Engine.control_of_failure {engine : Engine} {node : Node} {vars : Variables} {ledger : Ledger}
    {failure : Failure} (h : (engine.step node vars ledger).failure = some failure) :
    node.kind.control vars = .follow := by
  rcases kind_of_failure h with ⟨w, hk⟩ | ⟨p, hk⟩ <;> rw [hk] <;> rfl

/-- The outcome of a step that does not jump says so. -/
theorem StepReport.outcome_ne_jump {r : StepReport} (h : r.control = .follow) : r.outcome ≠ .jump := by
  unfold outcome
  rw [h]
  cases r.failure <;> simp

/-! ## The way on -/

namespace Flow

/-- Where a walk goes on behind a node: along the node's first connection, to where it jumps, or nowhere. -/
def onward (f : Flow) (n : Node) : Control → Option String
  | .follow => f.next? n.id
  | .jump target => some target
  | .halt => none
  | .terminate _ => none

theorem next?_mem_edges {f : Flow} {id target : String} (h : f.next? id = some target) : (id, target) ∈ f.edges := by
  unfold next? at h
  obtain ⟨c, hc, rfl⟩ := Option.map_eq_some_iff.1 h
  have hs : c.source = id := by simpa using List.find?_some hc
  refine List.mem_append_left _ (List.mem_map.2 ⟨c, List.mem_of_find?_eq_some hc, ?_⟩)
  rw [hs]

theorem branch_mem_edges {f : Flow} {n : Node} {b : Branch} (hn : n ∈ f.nodes) (hb : b ∈ n.branches) :
    (n.id, b.target) ∈ f.edges :=
  List.mem_append_right _ (List.mem_flatMap.2 ⟨n, hn, List.mem_map.2 ⟨b, hb, rfl⟩⟩)

/-- A walk goes on along an edge of the flow. -/
theorem onward_mem_edges {f : Flow} {n : Node} {vars : Variables} {id : String} (hn : n ∈ f.nodes)
    (h : f.onward n (n.kind.control vars) = some id) : (n.id, id) ∈ f.edges := by
  cases hc : n.kind.control vars with
  | follow => rw [hc] at h; exact next?_mem_edges h
  | jump target =>
    rw [hc] at h
    cases h
    obtain ⟨branches, b, hk, hb, rfl⟩ := NodeKind.control_jump hc
    refine branch_mem_edges hn ?_
    have : n.branches = branches := by unfold Node.branches; rw [hk]
    rw [this]
    exact List.mem_of_find?_eq_some hb
  | halt => rw [hc] at h; cases h
  | terminate reason => rw [hc] at h; cases h

end Flow

end Dialogue
