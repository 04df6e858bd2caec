/-
The order in which a flow lists its parts. With every id listed once and a single trigger, neither the order of
the nodes nor the order of the connections from different nodes makes a difference to any run; only the order of
the connections from one node does, for the first of them is followed.

All look-ups of a run take the first member of a list that passes a test. Where at most one member passes, it is
the first one in any order (`find?_of_perm`); and the connections from one node keep their order.
-/
import Dialogue.Proofs.Run.Lockstep
import Mathlib.Data.List.Nodup

namespace Dialogue

/-- In a list and in a permutation of it a look-up finds the same member, if no more than one passes. -/
theorem find?_of_perm {α : Type} {p : α → Bool} {xs ys : List α} (h : xs.Perm ys) (hone : xs.countP p ≤ 1) :
    ys.find? p = xs.find? p := by
  have hfilter : (xs.filter p).Perm (ys.filter p) := h.filter p
  rw [List.countP_eq_length_filter] at hone
  rw [← List.head?_filter, ← List.head?_filter]
  match hx : xs.filter p with
  | [] =>
    rw [hx] at hfilter
    rw [hfilter.nil_eq]
  | [x] =>
    rw [hx] at hfilter
    rw [List.perm_singleton.1 hfilter.symm]
  | _ :: _ :: _ =>
    rw [hx] at hone
    simp at hone

/-! ## Flows in another order -/

/-- Two flows, the second being the first one with its nodes and its connections in another order; the
connections from one node keep their order. -/
structure Flow.Reorders (f g : Flow) : Prop where
  nodes : f.nodes.Perm g.nodes
  connections : f.connections.Perm g.connections
  outgoing : ∀ id, g.outgoing id = f.outgoing id
  rest : g = { f with nodes := g.nodes, connections := g.connections }

namespace Flow.Reorders

variable {f g : Flow}

/-- An id that is listed once names the same node in any order. -/
theorem node?_eq (h : f.Reorders g) (hids : f.ids.Nodup) (id : String) : g.node? id = f.node? id := by
  refine find?_of_perm h.nodes ?_
  have hcount : f.nodes.countP (·.id == id) = f.ids.count id := by
    unfold ids
    rw [List.count, List.countP_map]
    rfl
  rw [hcount]
  exact List.nodup_iff_count_le_one.1 hids id

theorem next?_eq (h : f.Reorders g) (id : String) : g.next? id = f.next? id := by
  have houtgoing := h.outgoing id
  unfold Flow.outgoing at houtgoing
  unfold next?
  rw [← List.head?_filter, houtgoing, List.head?_filter]

/-- The only trigger is the start node in any order. -/
theorem start?_eq (h : f.Reorders g) (htrigger : f.nodes.countP (·.isTrigger) = 1) : g.start? = f.start? := by
  have hfind : g.nodes.find? (·.isTrigger) = f.nodes.find? (·.isTrigger) :=
    find?_of_perm h.nodes (Nat.le_of_eq htrigger)
  obtain ⟨n, hn, ht⟩ := List.countP_pos_iff.1 (by rw [htrigger]; exact Nat.one_pos)
  obtain ⟨start, hstart⟩ := Option.isSome_iff_exists.1 (List.find?_isSome.2 ⟨n, hn, ht⟩)
  unfold start?
  rw [hfind, hstart, Option.some_or, Option.some_or]

theorem opening_eq (h : f.Reorders g) (hids : f.ids.Nodup) (htrigger : f.nodes.countP (·.isTrigger) = 1)
    (session : Session) (inbound : String) : Engine.opening g session inbound = Engine.opening f session inbound := by
  have hdefaults : g.defaults = f.defaults := by rw [h.rest]
  have hresumed : Engine.resumed? g session = Engine.resumed? f session := by
    unfold Engine.resumed?
    rw [funext (h.node?_eq hids)]
  unfold Engine.opening
  rw [hresumed, h.start?_eq htrigger, hdefaults]

end Flow.Reorders

/-! ## Runs in another order -/

/-- A question whose answer is checked, with two ways on from the trigger, of which the first one counts. -/
def Flow.intercom : Flow where
  id := "intercom"
  slug := "intercom"
  name := none
  nodes := [⟨"start", none, .trigger⟩, ⟨"ask", none, .question ⟨"Who is it?", "guest", []⟩⟩,
    ⟨"check", none, .condition [.when "guest == Ada" "open"]⟩, ⟨"open", none, .message "Come in"⟩,
    ⟨"leave", none, .finish⟩]
  connections := [⟨"start", "ask", none⟩, ⟨"start", "leave", none⟩, ⟨"ask", "check", none⟩, ⟨"check", "leave", none⟩]
  trigger := .default
  defaults := .empty

/-- The intercom with its nodes from last to first, and its other connections in front of those from the
trigger. -/
def Flow.intercomReordered : Flow := { Flow.intercom with
  nodes := Flow.intercom.nodes.reverse
  connections := [⟨"check", "leave", none⟩, ⟨"ask", "check", none⟩, ⟨"start", "ask", none⟩, ⟨"start", "leave", none⟩] }

theorem Flow.intercom_reorders : Flow.intercom.Reorders .intercomReordered where
  nodes := (List.reverse_perm _).symm
  connections := by decide
  outgoing id := by
    unfold outgoing
    by_cases hstart : id = "start"
    · subst hstart
      rfl
    · by_cases hask : id = "ask"
      · subst hask
        rfl
      · simp [intercom, intercomReordered, List.filter_cons, Ne.symm hstart, Ne.symm hask]
  rest := rfl

namespace Engine

/-- A flow with every id listed once and with one trigger runs as it does with its nodes in any other order, and
with its connections in any other order in which those from one node do not change places: with any settings and
services, on any session, message and ledger, a run does the same, and leaves the same. -/
theorem run_of_reorders {f g : Flow} (h : f.Reorders g) (hids : f.ids.Nodup)
    (htrigger : f.nodes.countP (·.isTrigger) = 1) (engine : Engine) (session : Option Session) (inbound : String)
    (ledger : Ledger) : engine.run g session inbound ledger = engine.run f session inbound ledger := by
  have hlockstep : Lockstep engine engine f g (· = ·) (· = ·) :=
    .ofLookups rfl (h.node?_eq hids) h.next?_eq fun hpq => by rw [hpq]
  have houtset : outset f session inbound ledger = outset g session inbound ledger := by
    unfold outset
    rw [h.opening_eq hids htrigger]
  exact hlockstep.run_eq houtset fun _ _ => rfl

/-- The intercom asks first in either order, and opens. -/
theorem run_of_reorders_intercom :
    let engine : Engine := ⟨.default, .none⟩
    let session : Session := ⟨some "ask", .empty, true⟩
    Flow.intercom.Reorders .intercomReordered ∧ Flow.intercom.ids.Nodup ∧
      Flow.intercom.nodes.countP (·.isTrigger) = 1 ∧
      (engine.run .intercom (some session) "Ada" .empty).1.trace.path = ["check", "open"] ∧
      engine.run .intercomReordered (some session) "Ada" .empty = engine.run .intercom (some session) "Ada" .empty :=
  ⟨Flow.intercom_reorders, by decide, by decide, by decide +kernel,
    run_of_reorders Flow.intercom_reorders (by decide) (by decide) ⟨.default, .none⟩
      (some ⟨some "ask", .empty, true⟩) "Ada" .empty⟩

end Engine

end Dialogue
