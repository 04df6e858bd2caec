/-
The accounts of a run. A run is recorded three times: by the outcomes of its steps, by the errors in its trace, and
by its outputs and the session. The three agree, and so does the summary made of them: the errors are those of the
failed steps, in order, and behind them one more exactly when the run could not go on to where it was led, for
there is no such node or no budget left; no step is left open, so the five outcomes of closed steps count all of
them; the user sees what is counted as visible; and who is waited for is the question that the session is parked on.
-/
import Dialogue.Proofs.Run.Records
import Dialogue.Proofs.Trace.Books
import Dialogue.Run.Summary

namespace Dialogue

/-! ## Counting -/

/-- The outcomes of closed steps. -/
def Outcome.closed : List Outcome := [.continue, .jump, .halt, .terminate, .failed]

/-- Every output that the user sees has a text. -/
theorem visibleTexts_length (outputs : List Output) :
    (visibleTexts outputs).length = outputs.countP (·.isVisible) := by
  unfold visibleTexts
  induction outputs with
  | nil => rfl
  | cons o rest ih =>
    rw [List.countP_cons, ← ih]
    cases o <;> rfl

theorem StepReport.outcome_eq_failed_iff {r : StepReport} :
    r.outcome = .failed ↔ ∃ failure, r.failure = some failure := by
  unfold outcome
  cases r.failure with
  | some failure => simp
  | none => cases r.control <;> simp

/-! ## Where a run would go on -/

/-- The id of the node that a turn on a session would execute next: where the node executed last leads, or else
where the turn begins. -/
def Result.ahead? (r : Result) (flow : Flow) (session : Session) : Option String :=
  match r.lastNode?.bind flow.node? with
  | some last => flow.onward last (last.kind.control r.session.vars)
  | none => (Engine.origin? flow session).bind flow.next?

namespace Engine

section

variable {engine : Engine} {flow : Flow} {session : Option Session} {inbound : String} {ledger : Ledger}
  {visits : List Visit} {next : Option String} {p : Progress}

theorem Course.ahead?_eq (h : Course engine flow session inbound ledger visits next p) :
    (engine.run flow session inbound ledger).1.ahead? flow (session.getD .new) = next := by
  unfold Result.ahead?
  cases hv : visits.getLast? with
  | some v =>
    obtain ⟨hlast, hfound⟩ := h.last_found hv
    rw [hlast, Option.bind_some, hfound, h.vars_eq hv]
    show flow.onward v.node (v.node.kind.control (v.report engine).vars) = next
    rw [Visit.control_report_vars, ← h.trail.next_of_last hv]
  | none =>
    rw [h.lastNode?_eq, hv, h.trail.next_of_none hv, entrance?_eq]
    rfl

/-- The budget is what stops a run exactly when it is led to a node. -/
theorem Course.spent_iff (h : Course engine flow session inbound ledger visits next p) :
    (engine.run flow session inbound ledger).1.termination = .budgetExceeded engine.config.maxSteps ↔
      ∃ id node, next = some id ∧ flow.node? id = some node := by
  have hs := h.stop
  generalize engine.run flow session inbound ledger = r at hs
  cases hs with
  | exhausted => exact iff_of_false nofun fun ⟨_, _, hn, _⟩ => nomatch hn
  | dangling hunknown =>
    refine iff_of_false nofun fun ⟨id, node, hn, hfound⟩ => ?_
    cases hn
    rw [hunknown] at hfound
    cases hfound
  | @spent id node hn _ => exact iff_of_true rfl ⟨id, node, rfl, hn⟩
  | halted => exact iff_of_false nofun fun ⟨_, _, hn, _⟩ => nomatch hn
  | terminated _ hc =>
    rw [Visit.report_control] at hc
    rcases NodeKind.control_terminate hc with ⟨_, _, rfl⟩ | ⟨_, rfl⟩ <;>
      exact iff_of_false nofun fun ⟨_, _, hn, _⟩ => nomatch hn

/-- Led on or not, a run has noted the errors of its failed calls, and behind them what stopped it, if it was led
on. -/
theorem run_faults (engine : Engine) (flow : Flow) (session : Option Session) (inbound : String) (ledger : Ledger) :
    let result := (engine.run flow session inbound ledger).1
    result.trace.faults = (engine.visits flow session inbound ledger).filterMap (Visit.fault? engine) ++
      ((result.ahead? flow (session.getD .new)).map flow.obstacle).toList := by
  intro result
  obtain ⟨next, p, h⟩ := engine.visits_course flow session inbound ledger
  rw [show result.trace.faults = _ from h.faults_eq, show result.ahead? flow _ = next from h.ahead?_eq]
  cases next <;> rfl

/-- The errors of failed calls are those of the failed records. -/
theorem failed_forall₂ (engine : Engine) (flow : Flow) (session : Option Session) (inbound : String)
    (ledger : Ledger) :
    List.Forall₂ (fun (r : StepRecord) (fault : Fault) => fault.node = r.node ∧ r.detail = some fault.message)
      ((engine.run flow session inbound ledger).1.trace.steps.filter (·.outcome == .failed))
      ((engine.visits flow session inbound ledger).filterMap (Visit.fault? engine)) := by
  have hvisits : engine.visits flow session inbound ledger =
      (engine.visits flow session inbound ledger).zipIdx.map (·.1) := (List.zipIdx_map_fst ..).symm
  rw [run_records, List.mapIdx_eq_zipIdx_map]
  conv => rhs; rw [hvisits, List.filterMap_map]
  refine forall₂_filter_filterMap fun ⟨v, i⟩ _ => ⟨?_, fun fault hfault => ?_⟩
  · show ((v.report engine).outcome == .failed) = (v.fault? engine).isSome
    rw [Visit.fault?, Option.isSome_map, Bool.eq_iff_iff, beq_iff_eq, StepReport.outcome_eq_failed_iff,
      Option.isSome_iff_exists]
  · obtain ⟨failure, hfailure, rfl⟩ := Option.map_eq_some_iff.1 hfault
    exact ⟨rfl, remark_of_failure hfailure⟩

theorem run_outcome_closed {r : StepRecord} (hr : r ∈ (engine.run flow session inbound ledger).1.trace.steps) :
    r.outcome ≠ .running := by
  rw [run_records] at hr
  obtain ⟨i, hi, rfl⟩ := List.mem_mapIdx.1 hr
  intro hrunning
  have hallows := (engine.visits flow session inbound ledger)[i].outcome_allows engine
  rw [show ((engine.visits flow session inbound ledger)[i].report engine).outcome = .running from hrunning] at hallows
  exact hallows

/-- A run waits exactly when it is not completed, and then on the question on which its session is parked. -/
theorem run_awaiting (engine : Engine) (flow : Flow) (session : Option Session) (inbound : String)
    (ledger : Ledger) :
    let result := (engine.run flow session inbound ledger).1
    match result.session.awaiting with
    | some id => result.completed = false ∧ ∃ node q, Parked flow result node q ∧ node.id = id
    | none => result.completed = true := by
  intro result
  obtain ⟨visits, next, p, h⟩ := run_course engine flow session inbound ledger
  have hwaiting : result.session.waiting = true ↔ result.termination = .awaitingInput := h.stop.waiting_iff
  cases ha : result.session.awaiting with
  | some id =>
    obtain ⟨hw, hcurrent⟩ := Session.awaiting_eq_some_iff.1 ha
    obtain ⟨node, q, hparked⟩ := h.parked (hwaiting.1 hw)
    refine ⟨?_, node, q, hparked, Option.some.inj (hparked.current.symm.trans hcurrent)⟩
    rw [← Bool.not_eq_true, Result.completed_iff, not_not]
    exact hwaiting.1 hw
  | none =>
    refine Result.completed_iff.2 fun ht => ?_
    -- it would be parked on a question, and wait there
    obtain ⟨node, q, hparked⟩ := h.parked ht
    have hsome : result.session.awaiting = some node.id :=
      Session.awaiting_eq_some_iff.2 ⟨hparked.waiting, hparked.current⟩
    rw [ha] at hsome
    cases hsome

end

/-- Whatever the flow, the settings, the session, the message and the services, the accounts of a run agree. The
errors in its trace are those of its failed records, one for each and in order, and one more behind them exactly when
it was led on to an unknown node or stopped by its budget. Its summary counts the records, as many as have one of the
five outcomes of closed steps; as failed those with an error of their own; as visible the messages to the user, which
are among its outputs; and it names the question on which the session is parked, if the run is not completed. -/
theorem run_accounts (engine : Engine) (flow : Flow) (session : Option Session) (inbound : String)
    (ledger : Ledger) :
    let result := (engine.run flow session inbound ledger).1
    let summary := result.summary
    let ahead := result.ahead? flow (session.getD .new)
    let final := (ahead.map flow.obstacle).toList
    (∃ failed, result.trace.faults = failed ++ final ∧
      List.Forall₂ (fun (r : StepRecord) (fault : Fault) => fault.node = r.node ∧ r.detail = some fault.message)
        (result.trace.steps.filter (·.outcome == .failed)) failed) ∧
    (final ≠ [] ↔ (∃ id, ahead = some id ∧ flow.node? id = none) ∨
      result.termination = .budgetExceeded engine.config.maxSteps) ∧
    (summary.steps = result.trace.steps.length ∧
      summary.steps = (Outcome.closed.map result.trace.count).sum ∧
      summary.failedSteps + final.length = result.trace.faults.length) ∧
    (summary.visible = result.messages.length ∧ summary.visible ≤ summary.responses) ∧
    match summary.waitingOn with
    | some id => result.completed = false ∧ ∃ node q, Parked flow result node q ∧ node.id = id
    | none => result.completed = true := by
  intro result summary ahead final
  have hfaults : result.trace.faults = _ ++ final := engine.run_faults flow session inbound ledger
  have hfailed := engine.failed_forall₂ flow session inbound ledger
  have hsteps : result.steps = result.trace.steps.length := (engine.run_steps flow session inbound ledger).1
  refine ⟨⟨_, hfaults, hfailed⟩, ?_, ⟨hsteps, ?_, ?_⟩, ⟨?_, List.countP_le_length⟩,
    engine.run_awaiting flow session inbound ledger⟩
  · obtain ⟨next, p, h⟩ := engine.visits_course flow session inbound ledger
    have hahead : ahead = next := h.ahead?_eq
    have hspent : result.termination = .budgetExceeded engine.config.maxSteps ↔ _ := h.spent_iff
    rw [hspent, show final = (next.map flow.obstacle).toList by rw [← hahead], hahead]
    cases next with
    | none => simp
    | some id => cases hnode : flow.node? id <;> simp [hnode]
  · have hsum := result.trace.sum_counts
    have hopen : result.trace.count .running = 0 := by
      refine List.countP_eq_zero.2 fun r hr => ?_
      rw [beq_iff_eq]
      exact run_outcome_closed hr
    rw [show Outcome.all = .running :: Outcome.closed from rfl, List.map_cons, List.sum_cons, hopen,
      Nat.zero_add] at hsum
    rw [hsum]
    exact hsteps
  · have hlength := hfailed.length_eq
    rw [← List.countP_eq_length_filter] at hlength
    rw [hfaults, List.length_append, ← hlength]
    rfl
  · exact (visibleTexts_length _).symm

end Engine

end Dialogue
