/-
Dead parts of a flow. A connection behind another one from the same node, a branch behind one that is always
taken, a branch whose condition cannot be read, and a node with the id of an earlier one, unless it is a trigger,
do nothing: whichever of them are left out of a flow, every run is the same.

All look-ups of a run take the first member of a list that passes a test. So it is enough that for each test a
dead member either fails it or has one that passes it in front (`Pruned.find?_eq`).
-/
import Dialogue.Proofs.Run.Lockstep
import Dialogue.Proofs.Run.Records

namespace Dialogue

/-! ## Lists without some of their dead members -/

/-- Two lists, the second being the first one without some of its dead members. What makes a member dead is the
member and what stands before it in the first list, from `before` on. -/
inductive Pruned {α : Type} (Dead : List α → α → Prop) : List α → List α → List α → Prop
  | nil {before : List α} : Pruned Dead before [] []
  | keep {before xs ys : List α} {x : α} : Pruned Dead (before ++ [x]) xs ys → Pruned Dead before (x :: xs) (x :: ys)
  | drop {before xs ys : List α} {x : α} : Dead before x → Pruned Dead (before ++ [x]) xs ys →
    Pruned Dead before (x :: xs) ys

/-- The first member that passes a test is not dead, if a dead one has another before it that passes. -/
theorem Pruned.find?_eq {α : Type} {Dead : List α → α → Prop} {p : α → Bool}
    (hdead : ∀ before x, Dead before x → p x = true → ∃ y ∈ before, p y = true) {before xs ys : List α}
    (h : Pruned Dead before xs ys) (hbefore : ∀ y ∈ before, p y = false) : ys.find? p = xs.find? p := by
  have hbehind {before : List α} {x : α} (hbefore : ∀ y ∈ before, p y = false) (hx : p x = false) :
      ∀ y ∈ before ++ [x], p y = false := by
    intro y hy
    rcases List.mem_append.1 hy with hy | hy
    · exact hbefore y hy
    · rw [List.mem_singleton.1 hy, hx]
  induction h with
  | nil => rfl
  | @keep before xs ys x _ ih =>
    cases hx : p x with
    | true => rw [List.find?_cons_of_pos hx, List.find?_cons_of_pos hx]
    | false =>
      rw [List.find?_cons_of_neg (ne_true_of_eq_false hx), List.find?_cons_of_neg (ne_true_of_eq_false hx)]
      exact ih (hbehind hbefore hx)
  | @drop before xs ys x hd _ ih =>
    have hx : p x = false := by
      cases hx : p x with
      | false => rfl
      | true =>
        obtain ⟨y, hy, hpy⟩ := hdead before x hd hx
        rw [hbefore y hy] at hpy
        cases hpy
    rw [List.find?_cons_of_neg (ne_true_of_eq_false hx)]
    exact ih (hbehind hbefore hx)

/-! ## Dead parts of flows -/

/-- A connection is dead behind another one from the same node. -/
def Connection.Dead (before : List Connection) (c : Connection) : Prop := ∃ d ∈ before, d.source = c.source

/-- A branch is dead behind one that is always taken, or when its condition cannot be read. -/
def Branch.Dead (before : List Branch) (b : Branch) : Prop :=
  (∃ target, .otherwise target ∈ before) ∨
    ∃ expression target, b = .when expression target ∧ (Condition.read expression).isReadable = false

/-- A node is dead behind another one with its id, unless it is a trigger. -/
def Node.Dead (before : List Node) (n : Node) : Prop := n.isTrigger = false ∧ ∃ m ∈ before, m.id = n.id

/-- Two nodes, the second being the first one without some of its dead branches. -/
inductive Node.Prunes : Node → Node → Prop
  | same {n : Node} : Prunes n n
  | branches {id : String} {label : Option String} {all some : List Branch} : Pruned Branch.Dead [] all some →
    Prunes ⟨id, label, .condition all⟩ ⟨id, label, .condition some⟩

/-- Two flows, the second being the first one without some of its dead connections, nodes and branches. -/
inductive Flow.Prunes (f : Flow) : Flow → Prop
  | parts {connections : List Connection} {nodes nodes' : List Node} :
    Pruned Connection.Dead [] f.connections connections → Pruned Node.Dead [] f.nodes nodes →
    List.Forall₂ Node.Prunes nodes nodes' → Prunes f { f with nodes := nodes', connections := connections }

/-! ## Steps -/

theorem Engine.takenBranch?_pruned {all some : List Branch} (h : Pruned Branch.Dead [] all some)
    (vars : Variables) : takenBranch? vars some = takenBranch? vars all := by
  refine h.find?_eq (p := (·.holds vars)) (fun before b hd hb => ?_) (fun y hy => by cases hy)
  rcases hd with ⟨target, ht⟩ | ⟨expression, target, rfl, hr⟩
  · exact ⟨_, ht, rfl⟩
  · rw [Branch.holds_of_unreadable hr] at hb
    cases hb

namespace Node.Prunes

variable {n m : Node}

theorem id_eq (h : n.Prunes m) : m.id = n.id := by cases h <;> rfl

theorem isTrigger_eq (h : n.Prunes m) : m.isTrigger = n.isTrigger := by cases h <;> rfl

/-- No dead branch is part of a question. -/
theorem eq_of_question (h : n.Prunes m) : m = n ∨ m.question? = none ∧ n.question? = none := by
  cases h with
  | same => exact .inl rfl
  | branches => exact .inr ⟨rfl, rfl⟩

theorem after_eq (h : n.Prunes m) (p : Progress) (r : StepReport) : p.after m r = p.after n r := by
  cases h <;> rfl

theorem step_eq (h : n.Prunes m) (engine : Engine) (vars : Variables) (ledger : Ledger) :
    engine.step m vars ledger = engine.step n vars ledger := by
  cases h with
  | same => rfl
  | @branches id label all some hb =>
    show Engine.stepCondition id some vars ledger = Engine.stepCondition id all vars ledger
    unfold Engine.stepCondition
    rw [Engine.takenBranch?_pruned hb]

/-- A look-up in pruned nodes finds the pruned node. -/
theorem find?_rel {p : Node → Bool} (hp : ∀ n m : Node, n.Prunes m → p m = p n) {nodes nodes' : List Node}
    (h : List.Forall₂ Node.Prunes nodes nodes') : Option.Rel Node.Prunes (nodes.find? p) (nodes'.find? p) := by
  induction h with
  | nil => exact .none
  | @cons n m _ _ hn _ ih =>
    rw [List.find?_cons, List.find?_cons, hp n m hn]
    cases p n with
    | true => exact .some hn
    | false => exact ih

theorem map_id_eq {a b : Option Node} (h : Option.Rel Node.Prunes a b) : b.map (·.id) = a.map (·.id) := by
  cases h with
  | none => rfl
  | some h => exact congrArg some h.id_eq

end Node.Prunes

/-! ## Runs -/

namespace Flow.Prunes

variable {f g : Flow}

theorem next?_eq (h : f.Prunes g) (id : String) : g.next? id = f.next? id := by
  obtain ⟨hc, -, -⟩ := h
  unfold next?
  refine congrArg _ (hc.find?_eq (fun before c hd hs => ?_) nofun)
  obtain ⟨d, hd, hsource⟩ := hd
  exact ⟨d, hd, by rw [hsource]; exact hs⟩

/-- A look-up finds the same node, but for its dead branches, if a dead node that passes the test has another
before it that passes. -/
theorem find?_rel (h : f.Prunes g) {p : Node → Bool} (hp : ∀ n m : Node, n.Prunes m → p m = p n)
    (hdead : ∀ before n, Node.Dead before n → p n = true → ∃ m ∈ before, p m = true) :
    Option.Rel Node.Prunes (f.nodes.find? p) (g.nodes.find? p) := by
  obtain ⟨-, hn, hf⟩ := h
  rw [← hn.find?_eq hdead nofun]
  exact Node.Prunes.find?_rel hp hf

theorem node?_rel (h : f.Prunes g) (id : String) : Option.Rel Node.Prunes (f.node? id) (g.node? id) := by
  refine h.find?_rel (fun n m hm => by rw [hm.id_eq]) fun before n hd hid => ?_
  obtain ⟨-, m, hm, he⟩ := hd
  exact ⟨m, hm, by rw [he]; exact hid⟩

/-- The start node is no dead one: it is a trigger, or else it stands first. -/
theorem start?_eq (h : f.Prunes g) : g.start?.map (·.id) = f.start?.map (·.id) := by
  have htrigger : Option.Rel Node.Prunes (f.nodes.find? (·.isTrigger)) (g.nodes.find? (·.isTrigger)) := by
    refine h.find?_rel (fun n m hm => hm.isTrigger_eq) fun before n hd hn => ?_
    rw [hd.1] at hn
    cases hn
  have hfirst : Option.Rel Node.Prunes (f.nodes.find? fun _ => true) (g.nodes.find? fun _ => true) := by
    refine h.find?_rel (fun n m hm => rfl) fun before n hd _ => ?_
    obtain ⟨-, m, hm, -⟩ := hd
    exact ⟨m, hm, rfl⟩
  have hhead (nodes : List Node) : nodes.head? = nodes.find? fun _ => true := by cases nodes <;> rfl
  unfold start?
  rw [hhead, hhead, Option.map_or, Option.map_or, Node.Prunes.map_id_eq htrigger, Node.Prunes.map_id_eq hfirst]

theorem resumed?_eq (h : f.Prunes g) (session : Session) : Engine.resumed? g session = Engine.resumed? f session := by
  unfold Engine.resumed?
  cases session.awaiting with
  | none => rfl
  | some id =>
    show (g.node? id).bind _ = (f.node? id).bind _
    have hnode := h.node?_rel id
    generalize f.node? id = a, g.node? id = b at hnode
    cases hnode with
    | none => rfl
    | @some n m hm =>
      show m.question?.bind _ = n.question?.bind _
      rcases hm.eq_of_question with rfl | ⟨hq, hq'⟩
      · rfl
      · rw [hq, hq']
        rfl

theorem opening_eq (h : f.Prunes g) (session : Session) (inbound : String) :
    Engine.opening g session inbound = Engine.opening f session inbound := by
  have hdefaults : g.defaults = f.defaults := by cases h; rfl
  unfold Engine.opening
  rw [h.resumed?_eq, h.start?_eq, hdefaults]

end Flow.Prunes

namespace Engine

/-- A step is made at a node and at what is left of it. -/
theorem walk_of_prunes {f g : Flow} (h : f.Prunes g) (engine : Engine) (remaining : Nat) (next : Option String)
    (p : Progress) : engine.walk g remaining next p = engine.walk f remaining next p := by
  have hlockstep : Lockstep engine engine f g Node.Prunes (· = ·) :=
    ⟨rfl, h.node?_rel, fun hm => hm.id_eq, h.next?_eq, fun hpq => by rw [hpq]⟩
  refine (hlockstep.walk remaining rfl fun v _ m p q hm hpq hvars hledger => ?_).eq
  subst hpq
  rw [hvars, hledger, hm.step_eq, hm.after_eq, ← step_control engine m v.vars v.ledger, hm.step_eq, step_control]
  exact ⟨rfl, rfl⟩

end Engine

/-- An offer with dead parts of all sorts: conditions that cannot be read, a branch behind one that is always
taken, a second connection from the trigger, and a second node of one id. -/
def Flow.cluttered : Flow where
  id := "offer"
  slug := "offer"
  name := none
  nodes := [⟨"start", none, .trigger⟩, ⟨"size", none, .condition [.when "size ==" "low", .when "size" "low"]⟩,
    ⟨"budget", none, .condition [.when "budget == high" "high", .otherwise "low", .when "budget == low" "high"]⟩,
    ⟨"low", none, .message "Hello"⟩, ⟨"high", none, .transfer "Welcome"⟩, ⟨"low", none, .finish⟩]
  connections := [⟨"start", "size", none⟩, ⟨"start", "high", none⟩, ⟨"size", "budget", none⟩]
  trigger := .default
  defaults := .empty

/-- The offer without its dead parts. -/
def Flow.tidy : Flow := { Flow.cluttered with
  nodes := [⟨"start", none, .trigger⟩, ⟨"size", none, .condition []⟩,
    ⟨"budget", none, .condition [.when "budget == high" "high", .otherwise "low"]⟩,
    ⟨"low", none, .message "Hello"⟩, ⟨"high", none, .transfer "Welcome"⟩]
  connections := [⟨"start", "size", none⟩, ⟨"size", "budget", none⟩] }

theorem Flow.cluttered_prunes_tidy : Flow.cluttered.Prunes .tidy := by
  have hsize : Pruned Branch.Dead [] [.when "size ==" "low", .when "size" "low"] [] :=
    .drop (.inr ⟨_, _, rfl, by decide +kernel⟩) (.drop (.inr ⟨_, _, rfl, by decide +kernel⟩) .nil)
  have hbudget : Pruned Branch.Dead []
      [.when "budget == high" "high", .otherwise "low", .when "budget == low" "high"]
      [.when "budget == high" "high", .otherwise "low"] :=
    .keep (.keep (.drop (.inl ⟨"low", List.mem_cons_of_mem _ List.mem_cons_self⟩) .nil))
  have hnodes : Pruned Node.Dead [] Flow.cluttered.nodes (Flow.cluttered.nodes.take 5) :=
    .keep (.keep (.keep (.keep (.keep (.drop ⟨rfl, ⟨"low", none, .message "Hello"⟩, by simp, rfl⟩ .nil)))))
  exact .parts (.keep (.drop ⟨_, List.mem_cons_self, rfl⟩ (.keep .nil))) hnodes
    (.cons .same (.cons (.branches hsize) (.cons (.branches hbudget) (.cons .same (.cons .same .nil)))))

namespace Engine

/-- Whichever dead parts are left out of a flow: with any settings and services, on any session, message and
ledger, a run does the same, and leaves the same. -/
theorem run_of_prunes {f g : Flow} (h : f.Prunes g) (engine : Engine) (session : Option Session) (inbound : String)
    (ledger : Ledger) : engine.run g session inbound ledger = engine.run f session inbound ledger := by
  unfold run
  rw [h.opening_eq, funext h.next?_eq]
  exact walk_of_prunes h engine _ _ _

/-- A budget on its way through both conditions, with and without their dead branches. -/
theorem run_of_prunes_tidy :
    let engine : Engine := ⟨.default, .none⟩
    let session : Session := ⟨none, Variables.store .empty "budget" (.text "high"), false⟩
    Flow.cluttered.Prunes .tidy ∧
      engine.run .tidy (some session) "hi" .empty = engine.run .cluttered (some session) "hi" .empty :=
  ⟨Flow.cluttered_prunes_tidy, run_of_prunes Flow.cluttered_prunes_tidy ⟨.default, .none⟩
    (some ⟨none, Variables.store .empty "budget" (.text "high"), false⟩) "hi" .empty⟩

end Engine

end Dialogue
