/-
What a report without errors is worth to a run: whoever the session comes from, whatever the message and
the services, the walk meets no unknown node, and the graph runs out only behind a node without connections.

A walk comes to its next node along an edge: the first connection of the node that it stands on, or of the
one where it began, or the branch that a condition takes. The report looks at every edge, taken or not.
-/
import Dialogue.Proofs.Lint.Findings
import Dialogue.Proofs.Run.Ending

namespace Dialogue

/-! ## Failed calls -/

/-- No failed call reads like an unknown node. -/
theorem Failure.message_ne_unknownNode (failure : Failure) : failure.message ≠ unknownNodeMessage := by
  unfold message unknownNodeMessage
  intro h
  cases failure with
  | notConfigured service =>
    -- the service may have any name, so the texts are told apart at their ends
    have hl := congrArg (fun s => s.toList.getLast?) h
    simp at hl
  | timeout ms =>
    have hl := congrArg String.toList h
    simp at hl
  | transport reason =>
    have hl := congrArg String.toList h
    simp at hl
  | provider reason =>
    have hl := congrArg String.toList h
    simp at hl

theorem Visit.fault?_message_ne {engine : Engine} {v : Visit} {fault : Fault} (h : v.fault? engine = some fault) :
    fault.message ≠ unknownNodeMessage := by
  obtain ⟨failure, -, rfl⟩ := Option.map_eq_some_iff.1 h
  exact failure.message_ne_unknownNode

/-! ## The way of a run -/

/-- A walk finds the node at the end of every edge. -/
theorem Flow.node?_target {f : Flow} {e : String × String} (hf : f.nodes ≠ []) (h : f.errors = [])
    (he : e ∈ f.edges) : ∃ node, f.node? e.2 = some node := by
  obtain ⟨node, hn, hid⟩ := List.mem_map.1 (target_mem_ids hf h he)
  exact Option.isSome_iff_exists.1 (node?_isSome_iff.2 ⟨node, hn, hid⟩)

namespace Engine.Course

variable {engine : Engine} {flow : Flow} {session : Option Session} {inbound : String} {ledger : Ledger}
  {visits : List Visit} {next : Option String} {p : Progress}

/-- Where a run would go on, there is a node. -/
theorem next_found (h : Course engine flow session inbound ledger visits next p) (herrors : flow.errors = [])
    {id : String} (hn : next = some id) : ∃ node, flow.node? id = some node := by
  cases hv : visits.getLast? with
  | some v =>
    have hmem := Flow.node?_mem (h.last_found hv).2
    have hway := h.trail.next_of_last hv
    rw [hn] at hway
    exact Flow.node?_target (List.ne_nil_of_mem hmem) herrors (Flow.onward_mem_edges hmem hway.symm)
  | none =>
    -- the way of the entrance: behind the start node, or behind the question that is resumed
    have hway := h.trail.next_of_none hv
    rw [hn, entrance?_eq] at hway
    obtain ⟨origin, horigin, hnext⟩ := Option.bind_eq_some_iff.1 hway.symm
    have hnodes : flow.nodes ≠ [] := fun he => by
      rw [(origin?_eq_none_iff flow _).2 he] at horigin
      cases horigin
    exact Flow.node?_target hnodes herrors (Flow.next?_mem_edges hnext)

theorem fault_message_ne (h : Course engine flow session inbound ledger visits next p) (herrors : flow.errors = [])
    {fault : Fault} (hf : fault ∈ (engine.run flow session inbound ledger).1.trace.faults) :
    fault.message ≠ unknownNodeMessage := by
  rw [h.faults_eq] at hf
  rcases List.mem_append.1 hf with hf | hf
  · obtain ⟨v, -, hv⟩ := List.mem_filterMap.1 hf
    exact Visit.fault?_message_ne hv
  · obtain ⟨id, hid, rfl⟩ := List.mem_map.1 hf
    obtain ⟨node, hn⟩ := h.next_found herrors (Option.mem_toList.1 hid)
    unfold Flow.obstacle
    rw [hn]
    show budgetMessage ≠ unknownNodeMessage
    decide

/-- When the graph runs out, the run stands on a node without connections, and has not jumped there. -/
theorem stuck (h : Course engine flow session inbound ledger visits next p) (herrors : flow.errors = [])
    (hr : (engine.run flow session inbound ledger).1.termination = .endOfGraph) (hnodes : flow.nodes ≠ []) :
    match visits.getLast? with
    | some v => flow.outgoing v.node.id = [] ∧ (v.report engine).outcome ≠ .jump
    | none => ∃ id, origin? flow (session.getD .new) = some id ∧ flow.outgoing id = [] := by
  rcases (h.exhausted hr).2 with ⟨hn, hfollow⟩ | ⟨id, hn, hunknown⟩
  · cases hv : visits.getLast? with
    | some v =>
      have hc := hfollow v hv
      refine ⟨?_, StepReport.outcome_ne_jump hc⟩
      have hway := h.trail.next_of_last hv
      rw [Visit.report_control] at hc
      rw [hn, hc] at hway
      exact Flow.next?_eq_none_iff.1 hway.symm
    | none =>
      obtain ⟨id, hid⟩ := Option.ne_none_iff_exists'.1 fun he => hnodes ((origin?_eq_none_iff _ _).1 he)
      have hway := h.trail.next_of_none hv
      rw [hn, entrance?_eq, hid] at hway
      exact ⟨id, hid, Flow.next?_eq_none_iff.1 hway.symm⟩
  · obtain ⟨node, hfound⟩ := h.next_found herrors hn
    rw [hfound] at hunknown
    cases hunknown

end Engine.Course

/-! ## Runs of flows without errors -/

/-- A trigger with a greeting behind it. -/
def Flow.greeting : Flow where
  id := "greeting"
  slug := "greeting"
  name := none
  nodes := [⟨"start", none, .trigger⟩, ⟨"hello", none, .message "Hello"⟩]
  connections := [⟨"start", "hello", none⟩]
  trigger := .default
  defaults := .empty

namespace Engine

/-- On a flow whose report has no errors no run meets an unknown node; and if the flow has nodes, the graph
runs out only on a node without connections, with no jump away from it. -/
theorem run_of_no_errors (engine : Engine) (flow : Flow) (herrors : flow.errors = []) (session : Option Session)
    (inbound : String) (ledger : Ledger) :
    let result := (engine.run flow session inbound ledger).1
    (∀ fault ∈ result.trace.faults, fault.message ≠ unknownNodeMessage) ∧
    (result.termination = .endOfGraph → flow.nodes ≠ [] →
      match result.trace.steps.getLast? with
      | some r => flow.outgoing r.node = [] ∧ r.outcome ≠ .jump
      | none => ∃ id, origin? flow (session.getD .new) = some id ∧ flow.outgoing id = []) := by
  obtain ⟨visits, next, p, h⟩ := run_course engine flow session inbound ledger
  refine ⟨fun fault hf => h.fault_message_ne herrors hf, fun hr hnodes => ?_⟩
  have hstuck := h.stuck herrors hr hnodes
  rw [h.lastRecord_eq]
  cases hv : visits.getLast? with
  | some v => rw [hv] at hstuck; exact hstuck
  | none => rw [hv] at hstuck; exact hstuck

/-- A session of some other flow comes in, and the run greets and stops. -/
theorem run_of_no_errors_greeting :
    let stale : Session := ⟨some "elsewhere", .empty, true⟩
    let result := (Engine.run ⟨.default, .none⟩ .greeting (some stale) "hi" .empty).1
    Flow.greeting.errors = [] ∧ result.termination = .endOfGraph ∧
    (∀ fault ∈ result.trace.faults, fault.message ≠ unknownNodeMessage) ∧
    (result.termination = .endOfGraph → Flow.greeting.nodes ≠ [] →
      match result.trace.steps.getLast? with
      | some r => Flow.greeting.outgoing r.node = [] ∧ r.outcome ≠ .jump
      | none => ∃ id, origin? .greeting stale = some id ∧ Flow.greeting.outgoing id = []) :=
  ⟨by decide +kernel, by decide +kernel,
    run_of_no_errors ⟨.default, .none⟩ .greeting (by decide +kernel)
      (some ⟨some "elsewhere", .empty, true⟩) "hi" .empty⟩

end Engine

end Dialogue
