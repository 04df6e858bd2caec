/-
The report on unreachable nodes is exact. A node is reachable when steps lead to it from the start node, each along
a connection or along a branch of a condition node, through ids that need not name a node. The report calls
unreachable all other nodes but triggers, in the order of the nodes and once for each node that is listed: two
nodes of one id are two findings.
-/
import Dialogue.Proofs.Lint.Findings
import Dialogue.Proofs.Flow.Reach

namespace Dialogue

namespace Flow

/-! ## Steps -/

/-- A step of the search: along a connection, or along a branch of a condition node. -/
inductive Leads (f : Flow) : String → String → Prop
  | connection {c : Connection} : c ∈ f.connections → Leads f c.source c.target
  | branch {n : Node} {branches : List Branch} {b : Branch} :
    n ∈ f.nodes → n.kind = .condition branches → b ∈ branches → Leads f n.id b.target

variable {f : Flow}

theorem leads_iff_mem_edges {a b : String} : f.Leads a b ↔ (a, b) ∈ f.edges := by
  unfold edges
  rw [List.mem_append]
  constructor
  · intro h
    cases h with
    | connection hc => exact .inl (List.mem_map.2 ⟨_, hc, rfl⟩)
    | @branch n branches b hn hk hb =>
      refine .inr (List.mem_flatMap.2 ⟨n, hn, List.mem_map.2 ⟨b, ?_, rfl⟩⟩)
      unfold Node.branches
      rw [hk]
      exact hb
  · rintro (h | h)
    · obtain ⟨c, hc, heq⟩ := List.mem_map.1 h
      cases heq
      exact .connection hc
    · obtain ⟨n, hn, h⟩ := List.mem_flatMap.1 h
      obtain ⟨b, hb, heq⟩ := List.mem_map.1 h
      cases heq
      unfold Node.branches at hb
      cases hk : n.kind with
      | condition branches =>
        rw [hk] at hb
        exact .branch hn hk hb
      | _ => rw [hk] at hb; cases hb

/-- Steps lead from the start node to an id. -/
def Reaches (f : Flow) (id : String) : Prop :=
  ∃ start, f.start? = some start ∧ Relation.ReflTransGen f.Leads start.id id

/-- The search finds what is reached. -/
theorem reaches_iff {id : String} : f.Reaches id ↔ id ∈ f.reached := by
  have hleads : f.Leads = fun a b => (a, b) ∈ f.edges := by
    funext a b
    exact propext leads_iff_mem_edges
  rw [mem_reached_iff, Reaches, hleads]
  rfl

instance (f : Flow) (id : String) : Decidable (f.Reaches id) := decidable_of_iff _ reaches_iff.symm

/-! ## The report -/

/-- The nodes that the report calls unreachable, as it lists them. -/
theorem reachFindings_eq (f : Flow) : f.reachFindings =
    (f.nodes.filter fun n => !n.isTrigger && !decide (f.Reaches n.id)).map fun n => .unreachable n.id := by
  have hmissed (n : Node) :
      (!f.reached.contains n.id && !n.isTrigger) = (!n.isTrigger && !decide (f.Reaches n.id)) := by
    rw [Bool.and_comm]
    simp [reaches_iff]
  unfold reachFindings
  simp only [hmissed]

/-- Whatever the flow: the search terminates, for after one step more than there are edges its queue is empty, and no
further step changes what it has found; and the findings with the message for unreachable nodes are those of the nodes
that are no trigger and that no steps reach from the start node, in the order of the nodes and one for each. -/
theorem unreachable_findings_eq (f : Flow) :
    (∀ start, f.start? = some start → ∀ steps, f.edges.length < steps →
      let search := (Search.start start.id).run f.edges steps
      search.queue = [] ∧ search.reached = f.reached) ∧
    (f.findings.filter fun x => x.message = "node is unreachable from the start node") =
      (f.nodes.filter fun n => !n.isTrigger && !decide (f.Reaches n.id)).map fun n => .unreachable n.id := by
  constructor
  · intro start hstart steps h search
    have hwork : (Search.start start.id).work f.edges ≤ steps := Nat.le_trans (Search.work_start_le ..) h
    refine ⟨Search.queue_run_eq_nil hwork, ?_⟩
    unfold reached
    rw [hstart]
    exact congrArg Search.reached (Search.run_start_eq h start.id)
  have hmessage (id : String) : (Finding.unreachable id).message = "node is unreachable from the start node" := rfl
  have hpart : ∀ x : Finding,
      decide (x.message = "node is unreachable from the start node") = true → x.part? = some .reach := by
    intro x h
    exact Finding.part?_of_message_eq (.inl rfl) ((of_decide_eq_true h).trans (hmessage "").symm)
  rw [filter_findings hpart]
  split
  case isTrue hf =>
    rw [hf]
    rfl
  case isFalse hf =>
    rw [← reachFindings_eq, findingsIn, List.filter_eq_self]
    intro x hx
    obtain ⟨n, -, rfl⟩ := List.mem_map.1 hx
    exact decide_eq_true (hmessage n.id)

end Flow

end Dialogue
