/-
What steers a run. Only conditions look at the variables to find the way, and only at those of their branches
that can be read and stand in front of the first one that is always taken. On a flow whose conditions have no such
branch, the way of a run is settled by the place where its session stands: it makes the same steps and stops in
the same way, whatever is in the variables, whatever the user writes, and whatever the services answer, if they
answer at all.
-/
import Dialogue.Proofs.Run.Lockstep
import Dialogue.Proofs.Run.Records

namespace Dialogue

/-! ## Blind conditions -/

/-- Whether a branch is taken only when its expression holds. -/
def Branch.isConditional : Branch → Bool
  | .when _ _ => true
  | .otherwise _ => false

/-- Whether a branch can be read; one that is always taken has nothing to read. -/
def Branch.isReadable : Branch → Bool
  | .when expression _ => (Condition.read expression).isReadable
  | .otherwise _ => true

/-- A node that sends a walk on without a look at the variables: if it is a condition, then no branch in front of
the first one that is always taken can be read. -/
def Node.Blind (n : Node) : Prop :=
  ∀ b ∈ n.branches.takeWhile (·.isConditional), b.isReadable = false

instance (n : Node) : Decidable n.Blind :=
  inferInstanceAs (Decidable (∀ b ∈ n.branches.takeWhile (·.isConditional), b.isReadable = false))

/-- Of branches that cannot be read and others behind them, the first one that is always taken is taken. -/
theorem Engine.takenBranch?_of_unreadable {branches : List Branch}
    (h : ∀ b ∈ branches.takeWhile (·.isConditional), b.isReadable = false) (vars : Variables) :
    takenBranch? vars branches = branches.find? (!·.isConditional) := by
  induction branches with
  | nil => rfl
  | cons b rest ih =>
    cases b with
    | otherwise target => rfl
    | when expression target =>
      rw [List.takeWhile_cons_of_pos rfl, List.forall_mem_cons] at h
      obtain ⟨hread, hrest⟩ := h
      have hholds : (Branch.when expression target).holds vars = false := Branch.holds_of_unreadable hread vars target
      show List.find? (·.holds vars) (.when expression target :: rest) = _
      rw [List.find?_cons_of_neg (ne_true_of_eq_false hholds), List.find?_cons_of_neg (by exact Bool.false_ne_true)]
      exact ih hrest

theorem Node.Blind.control_eq {n : Node} (h : n.Blind) (vars vars' : Variables) :
    n.kind.control vars' = n.kind.control vars := by
  obtain ⟨id, label, kind⟩ := n
  cases kind with
  | condition branches =>
    have htaken (vars : Variables) : Engine.takenBranch? vars branches = branches.find? (!·.isConditional) :=
      Engine.takenBranch?_of_unreadable h vars
    simp only [NodeKind.control, htaken]
  | _ => rfl

/-! ## The way of a run -/

/-- Two walks that have come the same way. -/
structure Progress.SameWay (p q : Progress) : Prop where
  last : q.last = p.last
  steps : q.steps = p.steps
  path : q.trace.path = p.trace.path

theorem Progress.SameWay.after {p q : Progress} (h : p.SameWay q) (node : Node) (r r' : StepReport) :
    (p.after node r).SameWay (q.after node r') where
  last := rfl
  steps := congrArg (· + 1) h.steps
  path := by
    have hpath : q.trace.steps.map (·.node) = p.trace.steps.map (·.node) := h.path
    unfold Trace.path
    rw [after_records, after_records, List.map_append, List.map_append, hpath]
    rfl

/-- A session is resumed by the place on which it waits, and by nothing else. -/
theorem Engine.origin?_eq_of_place (flow : Flow) {session session' : Session}
    (hcurrent : session'.currentNode = session.currentNode) (hwaiting : session'.waiting = session.waiting) :
    origin? flow session' = origin? flow session := by
  have hawaiting : session'.awaiting = session.awaiting := by
    unfold Session.awaiting
    rw [hcurrent, hwaiting]
  unfold origin? resumed?
  rw [hawaiting]

/-- A web service and a generated reply behind a condition that cannot be read, and a question. -/
def Flow.callback : Flow where
  id := "callback"
  slug := "callback"
  name := none
  nodes := [⟨"start", none, .trigger⟩, ⟨"call", none, .webhook ⟨"http://crm", "GET", .empty, none, some 500, "crm"⟩⟩,
    ⟨"check", none, .condition [.when "crm.ok" "ask", .otherwise "reply", .when "crm.ok == true" "ask"]⟩,
    ⟨"reply", none, .aiResponse ⟨"", "{{crm.status}}", none, none, none, "reply"⟩⟩,
    ⟨"ask", none, .question ⟨"{{reply}}?", "answer", []⟩⟩]
  connections := [⟨"start", "call", none⟩, ⟨"call", "check", none⟩, ⟨"reply", "ask", none⟩, ⟨"ask", "call", none⟩]
  trigger := .default
  defaults := .empty

namespace Engine

/-- On a flow whose conditions are blind, two runs from sessions that stand on the same place and both wait there
or both do not, whatever their variables, their messages, their services and the calls made before: they execute
the same nodes, and stop for the same reason, on the same place. -/
theorem run_of_blind (config : Config) (services services' : Services) {flow : Flow}
    (hblind : ∀ n ∈ flow.nodes, n.Blind) {session session' : Option Session}
    (hcurrent : (session'.getD .new).currentNode = (session.getD .new).currentNode)
    (hwaiting : (session'.getD .new).waiting = (session.getD .new).waiting) (inbound inbound' : String)
    (ledger ledger' : Ledger) :
    let result := (Engine.run ⟨config, services⟩ flow session inbound ledger).1
    let result' := (Engine.run ⟨config, services'⟩ flow session' inbound' ledger').1
    result'.trace.path = result.trace.path ∧ result'.steps = result.steps ∧
      result'.termination = result.termination ∧ result'.session.currentNode = result.session.currentNode ∧
      result'.session.waiting = result.session.waiting := by
  have hlockstep : Lockstep ⟨config, services⟩ ⟨config, services'⟩ flow flow (· = ·) Progress.SameWay :=
    .ofLookups rfl (fun _ => rfl) (fun _ => rfl) fun h => h.last
  have houtset : (outset flow session inbound ledger).SameWay (outset flow session' inbound' ledger') := by
    refine ⟨?_, rfl, rfl⟩
    show (opening flow _ inbound').2 = (opening flow _ inbound).2
    rw [opening_origin, opening_origin, origin?_eq_of_place flow hcurrent hwaiting]
  have hvisits : ∀ v ∈ Engine.visits ⟨config, services⟩ flow session inbound ledger,
      v.Matched ⟨config, services⟩ ⟨config, services'⟩ (· = ·) Progress.SameWay := by
    intro v hv m p q hm hpq _ _
    subst hm
    have hnode : v.node ∈ flow.nodes := Flow.node?_mem (visits_node? hv)
    exact ⟨(hblind v.node hnode).control_eq .., hpq.after ..⟩
  obtain ⟨p, q, ending, hpq, hrun, hrun'⟩ := hlockstep.run houtset hvisits
  intro result result'
  rw [show result = _ from congrArg Prod.fst hrun, show result' = _ from congrArg Prod.fst hrun']
  -- all of the rest is said by the ending
  cases ending with
  | released node reason => exact ⟨hpq.path, hpq.steps, rfl, rfl, rfl⟩
  | barred fault node reason => exact ⟨hpq.path, hpq.steps, rfl, rfl, rfl⟩
  | halted node => exact ⟨hpq.path, hpq.steps, rfl, rfl, rfl⟩

/-- Services that answer, and services that come too late or fail, on two answers to the question. -/
theorem run_of_blind_callback :
    let answering : Services := .ofScripts [⟨20, .ok ⟨200, .null⟩⟩] [⟨20, .ok ⟨"Hello"⟩⟩]
    let failing : Services := .ofScripts [⟨900, .ok ⟨200, .null⟩⟩] [⟨20, .error (.provider "down")⟩]
    let session : Session := ⟨some "ask", .empty, true⟩
    let session' : Session := ⟨some "ask", Variables.store .empty "crm" (.bool true), true⟩
    let result := (Engine.run ⟨.default, answering⟩ .callback (some session) "yes" .empty).1
    let result' := (Engine.run ⟨.default, failing⟩ .callback (some session') "no" .empty).1
    (∀ n ∈ Flow.callback.nodes, n.Blind) ∧ session'.currentNode = session.currentNode ∧
      session'.waiting = session.waiting ∧
      (result.trace.count .failed = 0 ∧ result'.trace.count .failed = 2) ∧
      result.trace.path = ["call", "check", "reply", "ask"] ∧
      result'.trace.path = result.trace.path ∧ result'.steps = result.steps ∧
      result'.termination = result.termination ∧ result'.session.currentNode = result.session.currentNode ∧
      result'.session.waiting = result.session.waiting := by
  have hblind : ∀ n ∈ Flow.callback.nodes, n.Blind := by decide +kernel
  intro answering failing session session' result result'
  exact ⟨hblind, rfl, rfl, by decide +kernel, by decide +kernel,
    @run_of_blind .default answering failing .callback hblind (some session) (some session') rfl rfl "yes" "no"
      .empty .empty⟩

end Engine

end Dialogue
