/-
Sessions: what is kept of a conversation between two turns. A session stands on a node, or nowhere,
and either waits there for an answer or does not.
-/
import Dialogue.Variables.Store

namespace Dialogue

/-- The stored state of a conversation. -/
structure Session where
  currentNode : Option String
  vars : Variables
  waiting : Bool
deriving BEq

namespace Session

/-- The session of a new conversation. -/
def new : Session := ⟨none, .empty, false⟩

instance : Inhabited Session := ⟨new⟩

/-- The node on which a session waits for an answer. -/
def awaiting (s : Session) : Option String := if s.waiting then s.currentNode else none

/-- The session waiting on a node. -/
def haltAt (s : Session) (node : String) : Session :=
  { s with currentNode := some node, waiting := true }

/-- The session on a node, or nowhere, without waiting. -/
def releaseAt (s : Session) (node : Option String) : Session :=
  { s with currentNode := node, waiting := false }

theorem awaiting_eq_some_iff {s : Session} {node : String} :
    s.awaiting = some node ↔ s.waiting = true ∧ s.currentNode = some node := by
  unfold awaiting
  cases s.waiting <;> simp

@[simp] theorem awaiting_haltAt (s : Session) (node : String) :
    (s.haltAt node).awaiting = some node := rfl

@[simp] theorem awaiting_releaseAt (s : Session) (node : Option String) :
    (s.releaseAt node).awaiting = none := rfl

end Session

end Dialogue
