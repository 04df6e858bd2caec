/-
The budget of steps only cuts a run short. Of two runs that differ in nothing but their budgets, the one with
the smaller budget does what the other does first. If it is not cut off, the two are equal; and it is cut off
exactly when one step more in the budget would be used, so a run that ends with its last step is not.

A trail is the same for all budgets, and a walk with steps enough goes on from any of its trails
(`Trail.walk_eq`). So the longer run is either the shorter one, or it goes on where that was cut off.
-/
import Dialogue.Proofs.Run.Requests

namespace Dialogue

/-- The engine with another budget of steps. -/
def Engine.withBudget (engine : Engine) (budget : Nat) : Engine :=
  { engine with config := { engine.config with maxSteps := budget } }

/-- A run that begins as another one: with its records, its outputs and its requests. -/
structure Truncates (short long : Result × Ledger) : Prop where
  records : short.1.trace.steps <+: long.1.trace.steps
  responses : short.1.responses <+: long.1.responses
  webhooks : short.2.webhooks <+: long.2.webhooks
  ais : short.2.ais <+: long.2.ais
  actions : short.2.actions <+: long.2.actions

theorem Truncates.refl (r : Result × Ledger) : Truncates r r :=
  ⟨List.prefix_refl _, List.prefix_refl _, List.prefix_refl _, List.prefix_refl _, List.prefix_refl _⟩

/-! ## Walks that go on -/

/-- How a walk goes on behind a step at a node, with what it has gathered by then. -/
def Engine.walkBehind (engine : Engine) (flow : Flow) (remaining : Nat) (node : Node) (p : Progress) :
    Control → Result × Ledger
  | .follow => engine.walk flow remaining (flow.next? node.id) p
  | .jump target => engine.walk flow remaining (some target) p
  | .halt => p.halt node.id
  | .terminate reason => p.release (some node.id) reason

section

variable {engine : Engine} {flow : Flow} {entry next : Option String} {origin p : Progress} {visits : List Visit}

theorem Engine.walk_of_found {id : String} {node : Node} (h : flow.node? id = some node) (remaining : Nat) :
    engine.walk flow (remaining + 1) (some id) p =
      engine.walkBehind flow remaining node (p.after node (engine.step node p.session.vars p.ledger))
        (engine.step node p.session.vars p.ledger).control := by
  rw [walk]
  simp only [h]
  rfl

/-- A walk with steps enough goes on from each of its trails that it does not end with. -/
theorem Trail.walk_eq (h : Trail engine flow entry origin visits next p)
    (hnext : next = none → ∀ v, visits.getLast? = some v → (v.report engine).control = .follow) (remaining : Nat) :
    engine.walk flow (visits.length + remaining) entry origin = engine.walk flow remaining next p := by
  induction h generalizing remaining with
  | start => rw [List.length_nil, Nat.zero_add]
  | @visit visits id p node _ hn ih =>
    rw [List.length_append, List.length_singleton, Nat.add_assoc, Nat.add_comm 1,
      ih nofun (remaining + 1), Engine.walk_of_found hn]
    cases hc : (engine.step node p.session.vars p.ledger).control with
    | follow => rfl
    | jump target => rfl
    | halt => cases hc.symm.trans (hnext (by rw [hc]; rfl) _ List.getLast?_concat)
    | terminate reason => cases hc.symm.trans (hnext (by rw [hc]; rfl) _ List.getLast?_concat)

/-- Behind the last visit of a trail a walk goes where that visit sends it. -/
theorem Trail.walk_last (h : Trail engine flow entry origin visits next p) {v : Visit}
    (hv : visits.getLast? = some v) (remaining : Nat) :
    engine.walk flow (visits.length + remaining) entry origin =
      engine.walkBehind flow remaining v.node p (v.report engine).control := by
  cases h with
  | start => cases hv
  | visit ht hn =>
    rw [List.getLast?_concat] at hv
    cases hv
    rw [List.length_append, List.length_singleton, Nat.add_assoc, Nat.add_comm 1, ht.walk_eq nofun (remaining + 1),
      Engine.walk_of_found hn]
    rfl

/-- A walk that stops before its budget is spent is the same with any number of steps left. -/
theorem Trail.walk_of_stop (h : Trail engine flow entry origin visits next p) {budget : Nat} {r : Result × Ledger}
    (hs : Stop engine flow budget visits p next r) (hr : r.1.termination.isAbnormal = false) (remaining : Nat) :
    engine.walk flow (visits.length + remaining) entry origin = r := by
  cases hs with
  | exhausted hf => rw [h.walk_eq fun _ => hf, Engine.walk]
  | dangling hn =>
    rw [h.walk_eq nofun, Engine.walk]
    simp only [hn]
  | spent => cases hr
  | halted hv hc =>
    rw [h.walk_last hv, hc]
    rfl
  | terminated hv hc =>
    rw [h.walk_last hv, hc]
    rfl

/-- What a walk has gathered it does not lose. -/
theorem Engine.walk_truncates (remaining : Nat) (q : Result × Ledger) (hrecords : q.1.trace.steps = p.trace.steps)
    (hresponses : q.1.responses = p.responses) (hledger : q.2 = p.ledger) :
    Truncates q (engine.walk flow remaining next p) := by
  obtain ⟨visits, next', p', ht, -, hs⟩ := walk_trail engine flow remaining next p
  have hadds := ht.ledger_adds
  refine ⟨?_, ?_, ?_, ?_, ?_⟩
  · rw [hrecords, hs.records_eq, ht.records_eq]
    exact List.prefix_append ..
  · rw [hresponses, hs.responses_eq, ht.responses_eq]
    exact List.prefix_append ..
  · rw [hledger, hs.ledger_eq, hadds.webhooks]
    exact List.prefix_append ..
  · rw [hledger, hs.ledger_eq, hadds.ais]
    exact List.prefix_append ..
  · rw [hledger, hs.ledger_eq, hadds.actions]
    exact List.prefix_append ..

/-- A walk makes a step, if it has any left and a node to go on to. -/
theorem Engine.lt_walk_steps (engine : Engine) {id : String} {node : Node} (hn : flow.node? id = some node)
    {remaining : Nat} (hr : remaining ≠ 0) (p : Progress) :
    p.steps < (engine.walk flow remaining (some id) p).1.steps := by
  obtain ⟨visits, next', p', ht, -, hs⟩ := walk_trail engine flow remaining (some id) p
  have hne : visits ≠ [] := by
    intro he
    have hnext : next' = some id := ht.next_of_none (by rw [he]; rfl)
    -- nothing but a spent budget stops a walk in front of a node
    generalize engine.walk flow remaining (some id) p = r at hs
    cases hs with
    | spent _ hb => rw [he] at hb; exact hr hb.symm
    | dangling hunknown => cases hnext; rw [hn] at hunknown; cases hunknown
    | exhausted => cases hnext
    | halted => cases hnext
    | terminated => cases hnext
  rw [hs.steps_eq, ht.steps_eq]
  exact Nat.lt_add_of_pos_right (List.length_pos_iff.2 hne)

end

/-! ## Other budgets -/

section

variable {engine : Engine} {flow : Flow} {entry next : Option String} {origin p : Progress} {visits : List Visit}

theorem Trail.withBudget {budget : Nat} (h : Trail (engine.withBudget budget) flow entry origin visits next p)
    (other : Nat) : Trail (engine.withBudget other) flow entry origin visits next p := by
  induction h with
  | start => exact .start
  | visit _ hn ih =>
    -- no step looks at the budget
    exact ih.visit hn

theorem Stop.withBudget {budget limit : Nat} {r : Result × Ledger}
    (h : Stop (engine.withBudget budget) flow limit visits p next r) (hr : r.1.termination.isAbnormal = false)
    (other : Nat) : Stop (engine.withBudget other) flow limit visits p next r := by
  cases h with
  | exhausted hf => exact .exhausted hf
  | dangling hn => exact .dangling hn
  | spent => cases hr
  | halted hv hc => exact .halted hv hc
  | terminated hv hc => exact .terminated hv hc

end

namespace Engine

section

variable (engine : Engine) (flow : Flow) (session : Option Session) (inbound : String) (ledger : Ledger)

/-- A run with a larger budget is the same run, or it goes on where the other was cut off. -/
theorem run_withBudget (budget extra : Nat) :
    let short := (engine.withBudget budget).run flow session inbound ledger
    let long := (engine.withBudget (budget + extra)).run flow session inbound ledger
    (short.1.termination ≠ .budgetExceeded budget ∧ long = short) ∨
    ∃ id node p, flow.node? id = some node ∧ p.steps = budget ∧
      short = (p.note id budgetMessage).release (some id) (.budgetExceeded budget) ∧
      long = (engine.withBudget (budget + extra)).walk flow extra (some id) p := by
  intro short long
  obtain ⟨visits, next, p, ht, hl, hs⟩ := run_course (engine.withBudget budget) flow session inbound ledger
  have htrail := ht.withBudget (budget + extra)
  change visits.length ≤ budget at hl
  have hlong : long = (engine.withBudget (budget + extra)).walk flow (visits.length + (budget + extra - visits.length))
      (entrance? flow session inbound) (outset flow session inbound ledger) := by
    rw [Nat.add_sub_cancel' (by omega)]
    rfl
  have hsame (hr : short.1.termination.isAbnormal = false) : long = short :=
    hlong.trans (htrail.walk_of_stop (hs.withBudget hr (budget + extra)) hr _)
  change Stop _ flow budget visits p next short at hs
  generalize hshort : short = r at hs hsame
  cases hs with
  | @spent id node hn hb =>
    refine .inr ⟨id, node, p, hn, ?_, rfl, ?_⟩
    · rw [ht.steps_eq, hb]
      exact Nat.zero_add budget
    · rw [hlong, htrail.walk_eq nofun, hb, Nat.add_sub_cancel_left]
  | exhausted => exact .inl ⟨nofun, hsame rfl⟩
  | dangling => exact .inl ⟨nofun, hsame rfl⟩
  | halted => exact .inl ⟨nofun, hsame rfl⟩
  | @terminated v reason hv hc =>
    rw [Visit.report_control] at hc
    rcases NodeKind.control_terminate hc with ⟨_, _, rfl⟩ | ⟨_, rfl⟩
    · exact .inl ⟨nofun, hsame rfl⟩
    · exact .inl ⟨nofun, hsame rfl⟩

/-- A run is cut off exactly when a larger budget would let it make more steps. -/
theorem budgetExceeded_iff (budget : Nat) {extra : Nat} (hextra : extra ≠ 0) :
    ((engine.withBudget budget).run flow session inbound ledger).1.termination = .budgetExceeded budget ↔
      budget < ((engine.withBudget (budget + extra)).run flow session inbound ledger).1.steps := by
  rcases engine.run_withBudget flow session inbound ledger budget extra with ⟨hr, heq⟩ | ⟨id, node, p, hn, hp, hs, hl⟩
  · obtain ⟨hsteps, hle⟩ := (engine.withBudget budget).run_steps flow session inbound ledger
    rw [heq, hsteps]
    exact iff_of_false hr (Nat.not_lt_of_le hle)
  · have hmore := (engine.withBudget (budget + extra)).lt_walk_steps hn hextra p
    rw [hp] at hmore
    rw [hs, hl]
    exact iff_of_true rfl hmore

theorem visitsFrom_withBudget (budget remaining extra : Nat) (next : Option String) (vars : Variables) :
    (engine.withBudget budget).visitsFrom flow remaining next vars ledger =
      (engine.visitsFrom flow (remaining + extra) next vars ledger).take remaining := by
  induction remaining generalizing next vars ledger with
  | zero => rfl
  | succ remaining ih =>
    rw [Nat.add_right_comm]
    unfold visitsFrom
    cases next.bind flow.node? with
    | none => rfl
    | some node => exact congrArg (List.cons _) (ih ..)

/-- What a turn has in its variables after some steps is what it leaves there when it may make no more. -/
theorem varsAfter_eq_run {steps : Nat} (h : steps ≤ engine.config.maxSteps) :
    engine.varsAfter flow session inbound ledger steps =
      ((engine.withBudget steps).run flow session inbound ledger).1.session.vars := by
  have hvisits : (engine.withBudget steps).visits flow session inbound ledger =
      (engine.visits flow session inbound ledger).take steps := by
    have := engine.visitsFrom_withBudget flow ledger steps steps (engine.config.maxSteps - steps)
      (entrance? flow session inbound) (opening flow (session.getD .new) inbound).1.vars
    rw [Nat.add_sub_cancel' h] at this
    exact this
  rw [run_vars]
  unfold varsAfter
  rw [List.take_length, hvisits]
  rfl

end

/-- Of two budgets the smaller one only truncates: whatever the flow, the session, the message and the
services, its run begins as the other does, makes no more steps than it may, and is the other unless it is cut
off. It is cut off exactly when a budget of one step more would be used up, and so never when the longer run
has ended by then. -/
theorem run_budget_truncates (engine : Engine) (flow : Flow) (session : Option Session) (inbound : String)
    (ledger : Ledger) (budget extra : Nat) :
    let short := (engine.withBudget budget).run flow session inbound ledger
    let long := (engine.withBudget (budget + extra)).run flow session inbound ledger
    Truncates short long ∧
    (short.1.steps = short.1.trace.steps.length ∧ short.1.steps ≤ budget) ∧
    (short.1.termination ≠ .budgetExceeded budget → long = short) ∧
    (short.1.termination = .budgetExceeded budget ↔
      ((engine.withBudget (budget + 1)).run flow session inbound ledger).1.steps = budget + 1) ∧
    (extra ≠ 0 → long.1.steps ≤ budget → short.1.termination ≠ .budgetExceeded budget) := by
  intro short long
  have hsteps : short.1.steps = short.1.trace.steps.length ∧ short.1.steps ≤ budget := by
    obtain ⟨hsteps, hle⟩ := (engine.withBudget budget).run_steps flow session inbound ledger
    exact ⟨hsteps, hsteps ▸ hle⟩
  have hgoesOn : Truncates short long ∧ (short.1.termination ≠ .budgetExceeded budget → long = short) := by
    rcases engine.run_withBudget flow session inbound ledger budget extra with ⟨-, heq⟩ | ⟨id, node, p, -, -, hs, hl⟩
    · rw [show long = short from heq]
      exact ⟨.refl short, fun _ => rfl⟩
    · rw [show long = _ from hl, show short = _ from hs]
      exact ⟨walk_truncates extra _ rfl rfl rfl, fun hr => absurd rfl hr⟩
  refine ⟨hgoesOn.1, hsteps, hgoesOn.2, ?_, fun hextra hle hr => ?_⟩
  · rw [engine.budgetExceeded_iff flow session inbound ledger budget Nat.one_ne_zero]
    obtain ⟨hone, hle⟩ := (engine.withBudget (budget + 1)).run_steps flow session inbound ledger
    rw [hone]
    exact ⟨fun hlt => Nat.le_antisymm hle hlt, fun heq => by omega⟩
  · have hlt := (engine.budgetExceeded_iff flow session inbound ledger budget hextra).1 hr
    exact Nat.not_lt_of_le hle hlt

end Engine

end Dialogue
