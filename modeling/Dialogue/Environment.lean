/-
Environments: named texts that a process is started with. Every name occurs once, and the order is
the one in which the names were first assigned.
-/

namespace Dialogue

/-- Named texts in order. -/
structure Environment where
  pairs : List (String × String)
deriving DecidableEq, Repr

namespace Environment

/-- The environment without any name. -/
def empty : Environment := ⟨[]⟩

/-- The pairs after an assignment: a name that is there keeps its place and gets the new text, a new
one comes last. -/
def assignIn (name text : String) : List (String × String) → List (String × String)
  | [] => [(name, text)]
  | (n, t) :: rest =>
    if n = name then (name, text) :: rest else (n, t) :: assignIn name text rest

/-- The environment after an assignment. -/
def assign (e : Environment) (name text : String) : Environment := ⟨assignIn name text e.pairs⟩

/-- The environment after a list of assignments. -/
def ofAssignments (assignments : List (String × String)) : Environment :=
  assignments.foldl (fun e a => e.assign a.1 a.2) empty

end Environment

end Dialogue
