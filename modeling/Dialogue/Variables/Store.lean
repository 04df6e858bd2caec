/-
The variables of a conversation: a dictionary from names to values. Names are stored verbatim. A
read by `lookup` takes a name that is stored exactly as asked for first, and only then reads the
name as a path.
-/
import Dialogue.Variables.Path
import Dialogue.Json.Print

namespace Dialogue

/-- The variables of a conversation. -/
abbrev Variables := Dictionary Value

namespace Variables

/-- The value at a name or path, blanks around it ignored. A variable of exactly that name wins. -/
def lookup (vars : Variables) (name : String) : Option Value :=
  let name := Text.trim name
  match vars.get? name with
  | some v => some v
  | none => (Path.read? name.toList).bind fun p => (vars.get? p.base).bind (·.follow? p.steps)

/-- The text of the value at a name or path. -/
def lookupText (vars : Variables) (name : String) : Option String :=
  (vars.lookup name).map Value.display

/-- The variables with those defaults whose names are not taken. -/
def mergeDefaults (vars defaults : Variables) : Variables :=
  defaults.entries.foldl
    (fun vars e => if vars.contains e.1 then vars else vars.insert e.1 e.2) vars

/-- The variables with a value under a name, unless the name is empty. -/
def store (vars : Variables) (name : String) (value : Value) : Variables :=
  if name = "" then vars else vars.insert name value

theorem get?_store (vars : Variables) (name : String) (value : Value) (key : String) :
    (vars.store name value).get? key = if key = name ∧ name ≠ "" then some value else vars.get? key := by
  unfold store
  split
  · rename_i h
    rw [if_neg fun hk => hk.2 h]
  · rename_i h
    by_cases hk : key = name
    · subst hk
      rw [if_pos ⟨rfl, h⟩, Dictionary.get?_insert_self]
    · rw [if_neg fun he => hk he.1, Dictionary.get?_insert_of_ne _ _ hk]

/-- A default counts only where the name has no value. -/
theorem get?_mergeDefaults (vars defaults : Variables) (key : String) :
    (vars.mergeDefaults defaults).get? key = (vars.get? key).or (defaults.get? key) := by
  unfold mergeDefaults
  show _ = (vars.get? key).or (Entries.find? key defaults.entries)
  induction defaults.entries generalizing vars with
  | nil => exact (Option.or_none).symm
  | cons e rest ih =>
    rw [List.foldl_cons, ih, Entries.find?]
    by_cases hc : vars.contains e.1 = true
    · rw [if_pos hc]
      by_cases hk : e.1 = key
      · -- the default is for a name that is taken, so neither side looks at it
        obtain ⟨v, hv⟩ := Option.isSome_iff_exists.1 hc
        rw [← hk, hv, Option.some_or, Option.some_or]
      · rw [if_neg hk]
    · rw [if_neg hc]
      by_cases hk : e.1 = key
      · have hnone : vars.get? e.1 = none := Option.not_isSome_iff_eq_none.1 hc
        rw [if_pos hk, ← hk, Dictionary.get?_insert_self, hnone, Option.some_or, Option.none_or]
      · rw [if_neg hk, Dictionary.get?_insert_of_ne _ _ (Ne.symm hk)]

end Variables

end Dialogue
