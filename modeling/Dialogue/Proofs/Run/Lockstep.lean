/-
Two runs side by side. The engines may differ, and so may the flows, the sessions, the messages and the
ledgers, as long as the runs find nodes that correspond under every id, with the same connections. If at every
visit of the first run the second one goes on to the same place, and what the two have gathered still
corresponds behind the step, then the second run makes its steps along with the first, and both stop for the
same reason, on the same node, with what they have gathered corresponding.

What corresponds is a choice: equality, or no more than the number of steps and the path.
-/
import Dialogue.Proofs.Run.Budget

namespace Dialogue

/-! ## Endings -/

/-- How a walk ends, apart from what it has gathered: it is released on a node, if any, perhaps with an error
noted, or it halts on a question. -/
inductive Ending
  | released (node : Option String) (reason : Termination)
  | barred (fault : Fault) (node : Option String) (reason : Termination)
  | halted (node : String)

/-- What a walk gives that ends with what it has gathered. -/
def Progress.close (p : Progress) : Ending → Result × Ledger
  | .released node reason => p.release node reason
  | .barred fault node reason => (p.note fault.node fault.message).release node reason
  | .halted node => p.halt node

/-- Two results that come about by the same ending from what corresponds. -/
def Alongside (R : Progress → Progress → Prop) (r r' : Result × Ledger) : Prop :=
  ∃ p q ending, R p q ∧ r = p.close ending ∧ r' = q.close ending

theorem Alongside.eq {r r' : Result × Ledger} (h : Alongside (· = ·) r r') : r' = r := by
  obtain ⟨p, q, ending, rfl, rfl, rfl⟩ := h
  rfl

/-! ## Walks side by side -/

/-- Two engines on two flows that can run side by side: they have the same budget, find nodes that correspond
under every id, each with the same id and the same first connection, and what corresponds has the same node
last. -/
structure Lockstep (engine other : Engine) (flow flow' : Flow) (N : Node → Node → Prop)
    (R : Progress → Progress → Prop) : Prop where
  budget : other.config.maxSteps = engine.config.maxSteps
  found : ∀ id, Option.Rel N (flow.node? id) (flow'.node? id)
  id_eq : ∀ {n m : Node}, N n m → m.id = n.id
  next?_eq : ∀ id, flow'.next? id = flow.next? id
  last_eq : ∀ {p q : Progress}, R p q → q.last = p.last

/-- Along with a visit of the first engine, the other one goes on to the same place, and keeps to what
corresponds. -/
def Visit.Matched (engine other : Engine) (N : Node → Node → Prop) (R : Progress → Progress → Prop)
    (v : Visit) : Prop :=
  ∀ (m : Node) (p q : Progress), N v.node m → R p q → p.session.vars = v.vars → p.ledger = v.ledger →
    m.kind.control q.session.vars = v.node.kind.control v.vars ∧
      R (p.after v.node (v.report engine)) (q.after m (other.step m q.session.vars q.ledger))

namespace Lockstep

variable {engine other : Engine} {flow flow' : Flow} {N : Node → Node → Prop} {R : Progress → Progress → Prop}
  {p q : Progress} {next : Option String}

theorem unknown (h : Lockstep engine other flow flow' N R) {id : String} (hn : flow.node? id = none) :
    flow'.node? id = none := by
  have hfound := h.found id
  rw [hn] at hfound
  generalize flow'.node? id = m at hfound
  cases hfound
  rfl

theorem known (h : Lockstep engine other flow flow' N R) {id : String} {n : Node} (hn : flow.node? id = some n) :
    ∃ m, flow'.node? id = some m ∧ N n m := by
  have hfound := h.found id
  rw [hn] at hfound
  generalize flow'.node? id = m at hfound
  cases hfound with
  | some hnm => exact ⟨_, rfl, hnm⟩

/-- Where look-ups give the same, nodes correspond to themselves. -/
theorem ofLookups (hbudget : other.config.maxSteps = engine.config.maxSteps)
    (hnode : ∀ id, flow'.node? id = flow.node? id) (hnext : ∀ id, flow'.next? id = flow.next? id)
    (hlast : ∀ {p q : Progress}, R p q → q.last = p.last) : Lockstep engine other flow flow' (· = ·) R where
  budget := hbudget
  found id := by
    rw [hnode]
    cases flow.node? id with
    | none => exact .none
    | some n => exact .some rfl
  id_eq hnm := congrArg Node.id hnm.symm
  next?_eq := hnext
  last_eq := hlast

/-- Neither walk goes on where there is no node, and both note the same error, if any. -/
theorem walk_nowhere (h : Lockstep engine other flow flow' N R) (hpq : R p q) (hn : next.bind flow.node? = none)
    (remaining : Nat) :
    Alongside R (engine.walk flow remaining next p) (other.walk flow' remaining next q) := by
  unfold Engine.walk
  cases next with
  | none =>
    refine ⟨p, q, .released p.last .endOfGraph, hpq, rfl, ?_⟩
    rw [← h.last_eq hpq]
    rfl
  | some id =>
    rw [Option.bind_some] at hn
    simp only [hn, h.unknown hn]
    refine ⟨p, q, .barred ⟨id, unknownNodeMessage⟩ p.last .endOfGraph, hpq, rfl, ?_⟩
    rw [← h.last_eq hpq]
    rfl

/-- Walks whose steps correspond at every visit of the first end alongside. -/
theorem walk (h : Lockstep engine other flow flow' N R) (remaining : Nat) (hpq : R p q)
    (hvisits : ∀ v ∈ engine.visitsFrom flow remaining next p.session.vars p.ledger, v.Matched engine other N R) :
    Alongside R (engine.walk flow remaining next p) (other.walk flow' remaining next q) := by
  -- on the steps left; where the first walk finds a node, the second finds one that corresponds
  induction remaining generalizing next p q with
  | zero =>
    cases hnode : next.bind flow.node? with
    | none => exact h.walk_nowhere hpq hnode 0
    | some n =>
      obtain ⟨id, rfl, hn⟩ := Option.bind_eq_some_iff.1 hnode
      obtain ⟨m, hm, -⟩ := h.known hn
      unfold Engine.walk
      simp only [hn, hm, h.budget]
      exact ⟨p, q, .barred ⟨id, budgetMessage⟩ (some id) (.budgetExceeded engine.config.maxSteps), hpq, rfl, rfl⟩
  | succ remaining ih =>
    cases hnode : next.bind flow.node? with
    | none => exact h.walk_nowhere hpq hnode _
    | some n =>
      obtain ⟨id, rfl, hn⟩ := Option.bind_eq_some_iff.1 hnode
      obtain ⟨m, hm, hnm⟩ := h.known hn
      rw [Engine.visitsFrom_of_found hn, List.forall_mem_cons] at hvisits
      obtain ⟨hvisit, hlater⟩ := hvisits
      obtain ⟨hcontrol, hafter⟩ := hvisit m p q hnm hpq rfl rfl
      rw [Engine.step_control] at hlater
      rw [Engine.walk_of_found hn, Engine.walk_of_found hm, Engine.step_control, Engine.step_control, hcontrol]
      cases hc : n.kind.control p.session.vars with
      | follow =>
        rw [hc] at hlater
        unfold Engine.walkBehind
        rw [h.id_eq hnm, h.next?_eq]
        exact ih hafter hlater
      | jump target =>
        rw [hc] at hlater
        exact ih hafter hlater
      | halt => exact ⟨_, _, .halted n.id, hafter, rfl, by rw [← h.id_eq hnm]; rfl⟩
      | terminate reason => exact ⟨_, _, .released (some n.id) reason, hafter, rfl, by rw [← h.id_eq hnm]; rfl⟩

/-- Runs that begin with what corresponds, and whose steps correspond at every visit of the first, end
alongside. -/
theorem run (h : Lockstep engine other flow flow' N R) {session session' : Option Session}
    {inbound inbound' : String} {ledger ledger' : Ledger}
    (houtset : R (Engine.outset flow session inbound ledger) (Engine.outset flow' session' inbound' ledger'))
    (hvisits : ∀ v ∈ engine.visits flow session inbound ledger, v.Matched engine other N R) :
    Alongside R (engine.run flow session inbound ledger) (other.run flow' session' inbound' ledger') := by
  have hlast : (Engine.opening flow' (session'.getD .new) inbound').2 =
      (Engine.opening flow (session.getD .new) inbound).2 := h.last_eq houtset
  have hentrance : Engine.entrance? flow' session' inbound' = Engine.entrance? flow session inbound := by
    unfold Engine.entrance?
    rw [hlast, funext h.next?_eq]
  have hrun : other.run flow' session' inbound' ledger' = other.walk flow' engine.config.maxSteps
      (Engine.entrance? flow session inbound) (Engine.outset flow' session' inbound' ledger') := by
    rw [← hentrance, ← h.budget]
    rfl
  rw [hrun]
  exact h.walk engine.config.maxSteps houtset hvisits

/-- Where what corresponds has the same variables and every step keeps to it, runs on the same flow end alongside,
whatever they visit. -/
theorem run_of_steps (h : Lockstep engine other flow flow (· = ·) R)
    (hvars : ∀ {p q : Progress}, R p q → q.session.vars = p.session.vars)
    (hstep : ∀ (node : Node) {p q : Progress}, R p q →
      R (p.after node (engine.step node p.session.vars p.ledger)) (q.after node (other.step node q.session.vars q.ledger)))
    {session : Option Session} {inbound : String} {ledger ledger' : Ledger}
    (houtset : R (Engine.outset flow session inbound ledger) (Engine.outset flow session inbound ledger')) :
    Alongside R (engine.run flow session inbound ledger) (other.run flow session inbound ledger') := by
  refine h.run houtset fun v _ m p q hm hpq hv hledger => ?_
  subst hm
  refine ⟨congrArg v.node.kind.control ((hvars hpq).trans hv), ?_⟩
  have hafter := hstep v.node hpq
  rw [hv, hledger] at hafter
  exact hafter

/-- On nodes that are the same, runs with the same outset whose reports agree at every visit of the first are the
same. -/
theorem run_eq (h : Lockstep engine other flow flow' (· = ·) (· = ·)) {session session' : Option Session}
    {inbound inbound' : String} {ledger ledger' : Ledger}
    (houtset : Engine.outset flow session inbound ledger = Engine.outset flow' session' inbound' ledger')
    (hreports : ∀ v ∈ engine.visits flow session inbound ledger, v.report other = v.report engine) :
    other.run flow' session' inbound' ledger' = engine.run flow session inbound ledger := by
  refine (h.run houtset fun v hv m p q hm hpq hvars hledger => ?_).eq
  subst hm hpq
  rw [hvars, hledger]
  exact ⟨rfl, congrArg (p.after v.node) (hreports v hv).symm⟩

end Lockstep

end Dialogue
