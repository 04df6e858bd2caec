/-
Reachability: which ids a walk from the start node can come to. An edge is a connection or a branch
of a condition node; edges may lead through ids that name no node.

The search goes breadth first. It keeps the ids that it has come to and a queue of those whose edges
are still to be followed; a step takes the first id off the queue, and what its edges lead to is put
at the end of the queue when it is new. An id is queued when an edge leads to it for the first time,
so after one step more than there are edges the queue is empty.
-/
import Dialogue.Flow.Basic

namespace Dialogue

/-! ## The search -/

/-- A search under way: the ids that it has come to, and those whose edges are still to be followed. -/
structure Search where
  reached : List String
  queue : List String

namespace Search

/-- A search from an id. -/
def start (id : String) : Search := ⟨[id], [id]⟩

/-- Comes to an id, which is queued if it is new. -/
def visit (s : Search) (id : String) : Search :=
  if id ∈ s.reached then s else ⟨id :: s.reached, s.queue ++ [id]⟩

/-- Where the edges of an id lead, in the order of the edges. -/
def targets (edges : List (String × String)) (id : String) : List String :=
  (edges.filter fun e => e.1 = id).map (·.2)

/-- Takes the first id off the queue and follows its edges. -/
def step (edges : List (String × String)) (s : Search) : Search :=
  match s.queue with
  | [] => s
  | id :: rest => (targets edges id).foldl visit ⟨s.reached, rest⟩

/-- A search some steps later. -/
def run (edges : List (String × String)) : Nat → Search → Search
  | 0, s => s
  | steps + 1, s => run edges steps (s.step edges)

end Search

/-! ## Flows -/

namespace Node

/-- The branches of a condition node. -/
def branches (n : Node) : List Branch := match n.kind with
  | .condition branches => branches
  | _ => []

/-- The edges along the branches of a node. -/
def branchEdges (n : Node) : List (String × String) := n.branches.map fun b => (n.id, b.target)

end Node

namespace Flow

/-- All edges of a flow. -/
def edges (f : Flow) : List (String × String) :=
  f.connections.map (fun c => (c.source, c.target)) ++ f.nodes.flatMap Node.branchEdges

/-- The ids that can be reached from the start node. -/
def reached (f : Flow) : List String :=
  match f.start? with
  | some start => ((Search.start start.id).run f.edges (f.edges.length + 1)).reached
  | none => []

/-- The ids of the nodes. -/
def ids (f : Flow) : List String := f.nodes.map (·.id)

end Flow

end Dialogue
