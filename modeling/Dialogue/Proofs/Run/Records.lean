/-
The trace of a run is a walk of the flow. Every record is that of a node of the flow and has an outcome that the
kind of the node allows; the first record is behind the question that is resumed or behind the start node; and
of two records in a row the first leads to the second, along the first connection of its node or by the first
of its branches that holds when the step begins. A record that halts or ends the walk leads nowhere, so it is
the last.
-/
import Dialogue.Proofs.Run.Budget
import Dialogue.Proofs.Run.Resumption

namespace Dialogue

/-! ## Branches -/

/-- Whether a branch can be taken: its expression holds, or it has none. -/
def Branch.holds (vars : Variables) : Branch → Bool
  | .when expression _ => (Condition.read expression).holds vars
  | .otherwise _ => true

theorem Branch.holds_of_unreadable {expression : String} (h : (Condition.read expression).isReadable = false)
    (vars : Variables) (target : String) : (Branch.when expression target).holds vars = false := by
  show (Condition.read expression).holds vars = false
  cases hc : Condition.read expression with
  | comparison c => rw [hc] at h; cases h
  | unreadable => rfl

/-- The branch that is taken is the first one that can be. -/
theorem Engine.takenBranch?_eq_some_iff {vars : Variables} {branches : List Branch} {b : Branch} :
    takenBranch? vars branches = some b ↔ b.holds vars = true ∧
      ∃ earlier later, branches = earlier ++ b :: later ∧ ∀ c ∈ earlier, c.holds vars = false := by
  have hfind : takenBranch? vars branches = branches.find? (·.holds vars) := rfl
  rw [hfind, List.find?_eq_some_iff_append]
  simp only [Bool.not_eq_true']

/-! ## Records -/

/-- The kinds of node that a step can have with an outcome. No step is left running. -/
def Outcome.Allows (kind : NodeKind) : Outcome → Prop
  | .running => False
  | .continue => True
  | .jump => ∃ branches, kind = .condition branches
  | .halt => ∃ q, kind = .question q
  | .terminate => (∃ content, kind = .transfer content) ∨ kind = .finish
  | .failed => (∃ w, kind = .webhook w) ∨ ∃ p, kind = .aiResponse p

/-- How one record leads to another, with what the step of the first finds in the variables. -/
inductive StepRecord.Leads (flow : Flow) (vars : Variables) (a b : StepRecord) : Prop
  | follow : a.outcome = .continue ∨ a.outcome = .failed → flow.next? a.node = some b.node → Leads flow vars a b
  | jump {node : Node} {earlier later : List Branch} {taken : Branch} : a.outcome = .jump →
    flow.node? a.node = some node → node.kind = .condition (earlier ++ taken :: later) →
    taken.holds vars = true → (∀ c ∈ earlier, c.holds vars = false) → taken.target = b.node → Leads flow vars a b

namespace Visit

variable {engine : Engine} {flow : Flow} {v : Visit}

theorem outcome_allows (engine : Engine) (v : Visit) : (v.report engine).outcome.Allows v.node.kind := by
  unfold StepReport.outcome
  cases hf : (v.report engine).failure with
  | some failure => exact Engine.kind_of_failure hf
  | none =>
    cases hc : (v.report engine).control with
    | follow => trivial
    | jump target =>
      rw [report_control] at hc
      obtain ⟨branches, -, hk, -⟩ := NodeKind.control_jump hc
      exact ⟨branches, hk⟩
    | halt =>
      rw [report_control] at hc
      exact NodeKind.control_halt hc
    | terminate reason =>
      rw [report_control] at hc
      rcases NodeKind.control_terminate hc with ⟨content, hk, -⟩ | ⟨hk, -⟩
      · exact .inl ⟨content, hk⟩
      · exact .inr hk

/-- Where the walk goes on behind a visit, its record leads. -/
theorem record_leads {u : Visit} (hn : flow.node? v.node.id = some v.node)
    (h : flow.onward v.node (v.node.kind.control v.vars) = some u.node.id) (i j : Nat) :
    (v.record engine i).Leads flow v.vars (u.record engine j) := by
  have hcontrol : (v.report engine).control = v.node.kind.control v.vars := v.report_control engine
  cases hc : v.node.kind.control v.vars with
  | follow =>
    rw [hc] at h hcontrol
    refine .follow ?_ h
    show (v.report engine).outcome = _ ∨ (v.report engine).outcome = _
    unfold StepReport.outcome
    rw [hcontrol]
    cases (v.report engine).failure with
    | none => exact .inl rfl
    | some failure => exact .inr rfl
  | jump target =>
    rw [hc] at h hcontrol
    cases h
    obtain ⟨branches, b, hk, hb, htarget⟩ := NodeKind.control_jump hc
    obtain ⟨hholds, earlier, later, rfl, hearlier⟩ := Engine.takenBranch?_eq_some_iff.1 hb
    refine .jump ?_ hn hk hholds hearlier htarget
    show (v.report engine).outcome = _
    unfold StepReport.outcome
    -- a step that fails does not jump
    cases hf : (v.report engine).failure with
    | none => rw [hcontrol]
    | some failure => cases hc.symm.trans (Engine.control_of_failure hf)
  | halt => rw [hc] at h; cases h
  | terminate reason => rw [hc] at h; cases h

end Visit

/-! ## The records of a run -/

namespace Engine

section

variable {engine : Engine} {flow : Flow} {session : Option Session} {inbound : String} {ledger : Ledger} {i : Nat}

theorem run_record {r : StepRecord} (hr : (engine.run flow session inbound ledger).1.trace.steps[i]? = some r) :
    ∃ v, (engine.visits flow session inbound ledger)[i]? = some v ∧ v.record engine (i + 1) = r := by
  rw [run_records, List.getElem?_mapIdx] at hr
  exact Option.map_eq_some_iff.1 hr

/-- Of two visits in a row the second is made where the first one sends the walk. -/
theorem visits_onward {u v : Visit} (hv : (engine.visits flow session inbound ledger)[i]? = some v)
    (hu : (engine.visits flow session inbound ledger)[i + 1]? = some u) :
    flow.onward v.node (v.node.kind.control v.vars) = some u.node.id := by
  obtain ⟨next, p, h⟩ := engine.visits_course flow session inbound ledger
  obtain ⟨p', ht, -⟩ := h.trail.cut hu
  refine (ht.next_of_last ?_).symm
  rw [List.take_add_one, hv]
  exact List.getLast?_concat

/-- The first node that a turn executes is behind the question that it resumes, or else behind the start node. -/
theorem head_of_run {r : StepRecord} (hr : (engine.run flow session inbound ledger).1.trace.steps.head? = some r) :
    match resumed? flow (session.getD .new) with
    | some (question, _) => flow.next? question.id = some r.node
    | none => ∃ start, flow.start? = some start ∧ flow.next? start.id = some r.node := by
  obtain ⟨next, p, h⟩ := engine.visits_course flow session inbound ledger
  have hentrance := h.entrance?_of_head hr
  rw [entrance?_eq, origin?] at hentrance
  cases hresumed : resumed? flow (session.getD .new) with
  | some resumed =>
    rw [hresumed] at hentrance
    exact hentrance
  | none =>
    rw [hresumed] at hentrance
    obtain ⟨id, hid, hnext⟩ := Option.bind_eq_some_iff.1 hentrance
    obtain ⟨start, hstart, rfl⟩ := Option.map_eq_some_iff.1 hid
    exact ⟨start, hstart, hnext⟩

/-- Two records in a row: the first leads to the second, with what was in the variables when it began. -/
theorem run_leads {a b : StepRecord} (ha : (engine.run flow session inbound ledger).1.trace.steps[i]? = some a)
    (hb : (engine.run flow session inbound ledger).1.trace.steps[i + 1]? = some b) :
    a.Leads flow (engine.varsAfter flow session inbound ledger i) b := by
  obtain ⟨v, hv, rfl⟩ := run_record ha
  obtain ⟨u, hu, rfl⟩ := run_record hb
  rw [← visits_vars hv]
  exact Visit.record_leads (visits_node? (List.mem_of_getElem? hv)) (visits_onward hv hu) ..

end

/-- Whatever the flow, the settings, the session, the message and the services, the trace of a run is a walk of
the flow: within the budget, its records numbered from one, each at a node of the flow and with an outcome that
goes with the node; from behind the question that is resumed or behind the start node; and each record leads to
the next one, with the variables that a run leaves which stops in front of it. -/
theorem run_trace_walk (engine : Engine) (flow : Flow) (session : Option Session) (inbound : String)
    (ledger : Ledger) :
    let result := (engine.run flow session inbound ledger).1
    let records := result.trace.steps
    (result.steps = records.length ∧ records.length ≤ engine.config.maxSteps) ∧
    (∀ r, records.head? = some r →
      match resumed? flow (session.getD .new) with
      | some (question, _) => flow.next? question.id = some r.node
      | none => ∃ start, flow.start? = some start ∧ flow.next? start.id = some r.node) ∧
    ∀ i a, records[i]? = some a →
      a.step = i + 1 ∧
      (∃ node, flow.node? a.node = some node ∧ a.kind = node.kind.name ∧ a.outcome.Allows node.kind) ∧
      (a.outcome = .halt ∨ a.outcome = .terminate → i + 1 = records.length) ∧
      ∀ b, records[i + 1]? = some b →
        a.Leads flow ((engine.withBudget i).run flow session inbound ledger).1.session.vars b := by
  intro result records
  have hlength : result.steps = records.length ∧ records.length ≤ engine.config.maxSteps :=
    engine.run_steps flow session inbound ledger
  refine ⟨hlength, fun r hr => head_of_run hr, fun i a ha => ?_⟩
  have hlt : i < records.length := (List.getElem?_eq_some_iff.1 ha).1
  obtain ⟨v, hv, hrecord⟩ := run_record ha
  refine ⟨by rw [← hrecord]; rfl, ⟨v.node, ?_⟩, fun hstop => ?_, fun b hb => ?_⟩
  · rw [← hrecord]
    exact ⟨visits_node? (List.mem_of_getElem? hv), rfl, v.outcome_allows engine⟩
  · -- a record behind this one would be one that it leads to
    rcases Nat.lt_or_eq_of_le (Nat.succ_le_of_lt hlt) with hlt | heq
    · have hleads := run_leads ha (List.getElem?_eq_getElem hlt)
      cases hleads with
      | follow ho => rcases hstop with hs | hs <;> rw [hs] at ho <;> simp at ho
      | jump ho => rcases hstop with hs | hs <;> rw [hs] at ho <;> cases ho
    · exact heq
  · rw [← varsAfter_eq_run engine flow session inbound ledger (Nat.le_trans (Nat.le_of_lt hlt) hlength.2)]
    exact run_leads ha hb

end Engine

end Dialogue
