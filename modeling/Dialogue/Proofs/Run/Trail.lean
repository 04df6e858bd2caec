/-
Runs, visit by visit. A visit is the execution of one node: the variables and the ledger that it finds
determine its report. A trail is a walk up to some point: the visits made, the node id to go on to, and
all that was gathered; `walk_trail` says that every walk is a trail, within its budget of visits, that
ends in one of five ways (`Stop`).

What a trail has gathered is a function of its visits: the node last executed, the number of steps, the
records and the errors of the trace, the variables. So a statement about a run is one about its visits,
proved by induction along the trail.
-/
import Dialogue.Proofs.Run.Step

namespace Dialogue

/-! ## Visits -/

/-- The execution of a node, with what it finds. -/
structure Visit where
  node : Node
  vars : Variables
  ledger : Ledger

namespace Visit

/-- What the visit did. -/
def report (engine : Engine) (v : Visit) : StepReport := engine.step v.node v.vars v.ledger

/-- The record of a visit in the trace, the step having the given number. -/
def record (engine : Engine) (number : Nat) (v : Visit) : StepRecord :=
  ⟨number, v.node.id, v.node.kind.name, (v.report engine).outcome, (v.report engine).remark⟩

/-- The error that a visit leaves in the trace, if its call failed. -/
def fault? (engine : Engine) (v : Visit) : Option Fault :=
  (v.report engine).failure.map fun failure => ⟨v.node.id, failure.message⟩

theorem report_control (engine : Engine) (v : Visit) : (v.report engine).control = v.node.kind.control v.vars :=
  engine.step_control v.node v.vars v.ledger

/-- The control of a visit can be read off the variables that it leaves. -/
theorem control_report_vars (engine : Engine) (v : Visit) :
    v.node.kind.control (v.report engine).vars = v.node.kind.control v.vars :=
  engine.control_step_vars v.node v.vars v.ledger

end Visit

/-! ## The trace behind a step -/

namespace Progress

theorem after_records (p : Progress) (node : Node) (r : StepReport) : (p.after node r).trace.steps =
    p.trace.steps ++ [⟨p.trace.steps.length + 1, node.id, node.kind.name, r.outcome, r.remark⟩] := by
  have hopen : Trace.isOpen node.id ⟨p.trace.steps.length + 1, node.id, node.kind.name, .running, none⟩ = true := by
    simp [Trace.isOpen]
  unfold after
  cases r.failure with
  | none => exact Trace.finish_steps_of_open rfl hopen _ _
  | some failure => exact Trace.finish_steps_of_open rfl hopen _ _

theorem after_faults (p : Progress) (node : Node) (r : StepReport) : (p.after node r).trace.faults =
    p.trace.faults ++ (r.failure.map fun failure => ⟨node.id, failure.message⟩).toList := by
  unfold after
  cases r.failure <;> simp

end Progress

/-! ## Trails -/

/-- A walk that began at `entry` with `origin` gathered has made some visits, would go on to a node id, if
any, and has gathered what it has. -/
inductive Trail (engine : Engine) (flow : Flow) (entry : Option String) (origin : Progress) :
    List Visit → Option String → Progress → Prop
  | start : Trail engine flow entry origin [] entry origin
  | visit {visits : List Visit} {id : String} {p : Progress} {node : Node} :
    Trail engine flow entry origin visits (some id) p → flow.node? id = some node →
      Trail engine flow entry origin (visits ++ [⟨node, p.session.vars, p.ledger⟩])
        (flow.onward node (engine.step node p.session.vars p.ledger).control)
        (p.after node (engine.step node p.session.vars p.ledger))

/-- The error noted for a node id that a walk would go on to and cannot: the node is unknown, or else the
budget is spent. -/
def Flow.obstacle (f : Flow) (id : String) : Fault :=
  ⟨id, match f.node? id with
    | some _ => budgetMessage
    | none => unknownNodeMessage⟩

/-- How a walk ends that has made some visits: the node last executed leads nowhere, the way leads to an
unknown node, the budget is spent, or the last visit halted or ended it. -/
inductive Stop (engine : Engine) (flow : Flow) (budget : Nat) (visits : List Visit) (p : Progress) :
    Option String → Result × Ledger → Prop
  | exhausted : (∀ v, visits.getLast? = some v → (v.report engine).control = .follow) →
    Stop engine flow budget visits p none (p.release p.last .endOfGraph)
  | dangling {id : String} : flow.node? id = none →
    Stop engine flow budget visits p (some id) ((p.note id unknownNodeMessage).release p.last .endOfGraph)
  | spent {id : String} {node : Node} : flow.node? id = some node → visits.length = budget →
    Stop engine flow budget visits p (some id)
      ((p.note id budgetMessage).release (some id) (.budgetExceeded engine.config.maxSteps))
  | halted {v : Visit} : visits.getLast? = some v → (v.report engine).control = .halt →
    Stop engine flow budget visits p none (p.halt v.node.id)
  | terminated {v : Visit} {reason : Termination} : visits.getLast? = some v →
    (v.report engine).control = .terminate reason →
    Stop engine flow budget visits p none (p.release (some v.node.id) reason)

section Trail

variable {engine : Engine} {flow : Flow} {entry : Option String} {origin : Progress}

/-- A walk goes on from a trail to its end, and makes no more visits than it has steps left. -/
theorem Trail.walk {visits : List Visit} {next : Option String} {p : Progress}
    (h : Trail engine flow entry origin visits next p) (remaining : Nat)
    (hnext : next = none → ∀ v, visits.getLast? = some v → (v.report engine).control = .follow) :
    ∃ visits' next' p', Trail engine flow entry origin visits' next' p' ∧
      visits'.length ≤ visits.length + remaining ∧
      Stop engine flow (visits.length + remaining) visits' p' next' (engine.walk flow remaining next p) := by
  -- on the steps left: each of them makes the trail longer by one visit
  induction remaining generalizing visits next p with
  | zero =>
    refine ⟨visits, next, p, h, Nat.le_refl _, ?_⟩
    unfold Engine.walk
    cases next with
    | none => exact .exhausted (hnext rfl)
    | some id =>
      cases hn : flow.node? id with
      | none => simp only [hn]; exact .dangling hn
      | some node => simp only [hn]; exact .spent hn rfl
  | succ remaining ih =>
    unfold Engine.walk
    cases next with
    | none => exact ⟨visits, none, p, h, by omega, .exhausted (hnext rfl)⟩
    | some id =>
      cases hn : flow.node? id with
      | none => simp only [hn]; exact ⟨visits, some id, p, h, by omega, .dangling hn⟩
      | some node =>
        simp only [hn]
        have ht := h.visit hn
        have hlast : (visits ++ [(⟨node, p.session.vars, p.ledger⟩ : Visit)]).getLast? =
          some ⟨node, p.session.vars, p.ledger⟩ := List.getLast?_concat
        have hlength : (visits ++ [(⟨node, p.session.vars, p.ledger⟩ : Visit)]).length + remaining =
          visits.length + (remaining + 1) := by simp; omega
        cases hc : (engine.step node p.session.vars p.ledger).control with
        | follow =>
          rw [hc] at ht
          rw [← hlength]
          refine ih ht fun _ v hv => ?_
          rw [hlast] at hv
          cases hv
          exact hc
        | jump target =>
          rw [hc] at ht
          rw [← hlength]
          exact ih ht fun he => by cases he
        | halt =>
          rw [hc] at ht
          exact ⟨_, _, _, ht, by rw [← hlength]; omega, .halted hlast hc⟩
        | terminate reason =>
          rw [hc] at ht
          exact ⟨_, _, _, ht, by rw [← hlength]; omega, .terminated hlast hc⟩

theorem walk_trail (engine : Engine) (flow : Flow) (budget : Nat) (entry : Option String) (origin : Progress) :
    ∃ visits next p, Trail engine flow entry origin visits next p ∧ visits.length ≤ budget ∧
      Stop engine flow budget visits p next (engine.walk flow budget entry origin) := by
  have hstart : Trail engine flow entry origin [] entry origin := .start
  have := hstart.walk budget fun _ v hv => by cases hv
  simpa using this

/-! ## What a trail has gathered -/

variable {visits : List Visit} {next : Option String} {p : Progress}

theorem Trail.node?_visit (h : Trail engine flow entry origin visits next p) :
    ∀ v ∈ visits, flow.node? v.node.id = some v.node := by
  induction h with
  | start => intro v hv; cases hv
  | visit _ hn ih =>
    intro v hv
    rcases List.mem_append.1 hv with hv | hv
    · exact ih v hv
    · rw [List.mem_singleton] at hv
      subst hv
      exact Flow.node?_self hn

/-- Behind its last visit a trail goes on as the node says. -/
theorem Trail.next_of_last (h : Trail engine flow entry origin visits next p) {v : Visit}
    (hv : visits.getLast? = some v) : next = flow.onward v.node (v.node.kind.control v.vars) := by
  cases h with
  | start => cases hv
  | visit =>
    rw [List.getLast?_concat] at hv
    cases hv
    rw [Engine.step_control]

/-- Without a visit a trail still stands at the entry. -/
theorem Trail.next_of_none (h : Trail engine flow entry origin visits next p) (hv : visits.getLast? = none) :
    next = entry := by
  cases h with
  | start => rfl
  | visit => rw [List.getLast?_concat] at hv; cases hv

/-- The first visit is that of the entry. -/
theorem Trail.head_visit (h : Trail engine flow entry origin visits next p) :
    ∀ v, visits.head? = some v → entry = some v.node.id := by
  induction h with
  | start => intro v hv; cases hv
  | @visit visits id p node ht hn ih =>
    intro v hv
    cases visits with
    | nil =>
      cases hv
      rw [← ht.next_of_none rfl, Flow.node?_id hn]
    | cons w rest => exact ih v (by simpa using hv)

theorem Trail.last_eq (h : Trail engine flow entry origin visits next p) :
    p.last = (visits.getLast?.map (·.node.id)).or origin.last := by
  cases h with
  | start => rfl
  | visit => rw [List.getLast?_concat]; rfl

theorem Trail.vars_eq (h : Trail engine flow entry origin visits next p) :
    p.session.vars = (visits.getLast?.map fun v => (v.report engine).vars).getD origin.session.vars := by
  cases h with
  | start => rfl
  | visit => rw [List.getLast?_concat]; rfl

theorem Trail.steps_eq (h : Trail engine flow entry origin visits next p) :
    p.steps = origin.steps + visits.length := by
  induction h with
  | start => rfl
  | @visit visits id p node _ _ ih =>
    show p.steps + 1 = _
    rw [ih, List.length_append, List.length_singleton]
    omega

theorem Trail.responses_eq (h : Trail engine flow entry origin visits next p) :
    p.responses = origin.responses ++ visits.flatMap fun v => (v.report engine).outputs := by
  induction h with
  | start => simp
  | @visit visits id p node _ _ ih =>
    show p.responses ++ _ = _
    rw [ih, List.flatMap_append, List.append_assoc, List.flatMap_singleton]
    rfl

theorem Trail.records_eq (h : Trail engine flow entry origin visits next p) :
    p.trace.steps = origin.trace.steps ++
      visits.mapIdx fun i v => v.record engine (origin.trace.steps.length + i + 1) := by
  induction h with
  | start => simp
  | visit _ _ ih =>
    rw [Progress.after_records, ih, List.mapIdx_concat, List.append_assoc, List.length_append, List.length_mapIdx]
    rfl

theorem Trail.faults_eq (h : Trail engine flow entry origin visits next p) :
    p.trace.faults = origin.trace.faults ++ visits.filterMap (Visit.fault? engine) := by
  induction h with
  | start => simp
  | visit _ _ ih =>
    rw [Progress.after_faults, ih, List.filterMap_append, List.append_assoc]
    rfl

end Trail

/-! ## The trail of a run -/

namespace Result

/-- The node executed last. -/
def lastNode? (r : Result) : Option String := r.trace.steps.getLast?.map (·.node)

end Result

namespace Stop

variable {engine : Engine} {flow : Flow} {budget : Nat} {visits : List Visit} {p : Progress} {next : Option String}
  {r : Result × Ledger}

theorem steps_eq (h : Stop engine flow budget visits p next r) : r.1.steps = p.steps := by cases h <;> rfl

theorem records_eq (h : Stop engine flow budget visits p next r) : r.1.trace.steps = p.trace.steps := by
  cases h <;> rfl

theorem vars_eq (h : Stop engine flow budget visits p next r) : r.1.session.vars = p.session.vars := by
  cases h <;> rfl

theorem responses_eq (h : Stop engine flow budget visits p next r) : r.1.responses = p.responses := by
  cases h <;> rfl

theorem ledger_eq (h : Stop engine flow budget visits p next r) : r.2 = p.ledger := by cases h <;> rfl

theorem faults_eq (h : Stop engine flow budget visits p next r) :
    r.1.trace.faults = p.trace.faults ++ next.toList.map flow.obstacle := by
  cases h with
  | exhausted => exact (List.append_nil _).symm
  | dangling hn =>
    show _ = _ ++ [flow.obstacle _]
    unfold Flow.obstacle
    rw [hn]
    rfl
  | spent hn _ =>
    show _ = _ ++ [flow.obstacle _]
    unfold Flow.obstacle
    rw [hn]
    rfl
  | halted => exact (List.append_nil _).symm
  | terminated => exact (List.append_nil _).symm

end Stop

namespace Engine

/-- What a turn has gathered before its first step. -/
def outset (flow : Flow) (session : Option Session) (inbound : String) (ledger : Ledger) : Progress :=
  ⟨(opening flow (session.getD .new) inbound).2, (opening flow (session.getD .new) inbound).1, [], 0, .empty, ledger⟩

/-- Where a turn takes its first step. -/
def entrance? (flow : Flow) (session : Option Session) (inbound : String) : Option String :=
  (opening flow (session.getD .new) inbound).2.bind flow.next?

/-- A run: its visits, what they have gathered, and how it stops. -/
structure Course (engine : Engine) (flow : Flow) (session : Option Session) (inbound : String) (ledger : Ledger)
    (visits : List Visit) (next : Option String) (p : Progress) : Prop where
  trail : Trail engine flow (entrance? flow session inbound) (outset flow session inbound ledger) visits next p
  length_le : visits.length ≤ engine.config.maxSteps
  stop : Stop engine flow engine.config.maxSteps visits p next (engine.run flow session inbound ledger)

theorem run_course (engine : Engine) (flow : Flow) (session : Option Session) (inbound : String) (ledger : Ledger) :
    ∃ visits next p, Course engine flow session inbound ledger visits next p := by
  obtain ⟨visits, next, p, ht, hl, hs⟩ := walk_trail engine flow engine.config.maxSteps
    (entrance? flow session inbound) (outset flow session inbound ledger)
  exact ⟨visits, next, p, ht, hl, hs⟩

namespace Course

variable {engine : Engine} {flow : Flow} {session : Option Session} {inbound : String} {ledger : Ledger}
  {visits : List Visit} {next : Option String} {p : Progress}

theorem steps_eq (h : Course engine flow session inbound ledger visits next p) :
    (engine.run flow session inbound ledger).1.steps = visits.length := by
  rw [h.stop.steps_eq, h.trail.steps_eq]
  exact Nat.zero_add _

theorem records_eq (h : Course engine flow session inbound ledger visits next p) :
    (engine.run flow session inbound ledger).1.trace.steps = visits.mapIdx fun i v => v.record engine (i + 1) := by
  rw [h.stop.records_eq, h.trail.records_eq]
  simp [outset, Trace.empty]

theorem faults_eq (h : Course engine flow session inbound ledger visits next p) :
    (engine.run flow session inbound ledger).1.trace.faults =
      visits.filterMap (Visit.fault? engine) ++ next.toList.map flow.obstacle := by
  rw [h.stop.faults_eq, h.trail.faults_eq]
  simp [outset, Trace.empty]

theorem lastRecord_eq (h : Course engine flow session inbound ledger visits next p) :
    (engine.run flow session inbound ledger).1.trace.steps.getLast? =
      visits.getLast?.map (Visit.record engine visits.length) := by
  rw [h.records_eq]
  rcases List.eq_nil_or_concat visits with rfl | ⟨rest, v, rfl⟩
  · rfl
  · rw [List.concat_eq_append, List.mapIdx_concat, List.getLast?_concat, List.getLast?_concat,
      List.length_append, List.length_singleton]
    rfl

theorem lastNode?_eq (h : Course engine flow session inbound ledger visits next p) :
    (engine.run flow session inbound ledger).1.lastNode? = visits.getLast?.map (·.node.id) := by
  unfold Result.lastNode?
  rw [h.lastRecord_eq, Option.map_map]
  rfl

/-- The variables at the end of a run are those that its last visit left. -/
theorem vars_eq (h : Course engine flow session inbound ledger visits next p) {v : Visit}
    (hv : visits.getLast? = some v) :
    (engine.run flow session inbound ledger).1.session.vars = (v.report engine).vars := by
  rw [h.stop.vars_eq, h.trail.vars_eq, hv]
  rfl

end Course

end Engine

end Dialogue
