/-
Writes in order. Variables that are overwritten by a list of writes lose no name, keep every name that no
write is for, and hold under any other name the value of the last write for it.
-/
import Dialogue.Variables.Store

namespace Dialogue.Variables

/-- The variables after a list of writes. -/
def overwrite (vars : Variables) (writes : List (String × Value)) : Variables :=
  writes.foldl (fun vars w => vars.insert w.1 w.2) vars

theorem overwrite_append (vars : Variables) (first last : List (String × Value)) :
    vars.overwrite (first ++ last) = (vars.overwrite first).overwrite last := List.foldl_append

/-- Storing is one write, or none when the name is empty. -/
theorem store_eq_overwrite (vars : Variables) (name : String) (value : Value) :
    vars.store name value = vars.overwrite (((some name).filter (· ≠ "")).map (·, value)).toList := by
  unfold store
  by_cases h : name = ""
  · rw [if_pos h, h]
    rfl
  · rw [if_neg h, Option.filter_some_pos (by simpa using h)]
    rfl

theorem get?_overwrite_of_not_mem {writes : List (String × Value)} {key : String}
    (h : key ∉ writes.map (·.1)) (vars : Variables) : (vars.overwrite writes).get? key = vars.get? key := by
  induction writes generalizing vars with
  | nil => rfl
  | cons w rest ih =>
    rw [List.map_cons, List.mem_cons, not_or] at h
    show (overwrite (vars.insert w.1 w.2) rest).get? key = _
    rw [ih h.2, Dictionary.get?_insert_of_ne _ _ h.1]

/-- The last write for a name is what remains under it. -/
theorem get?_overwrite_last {later : List (String × Value)} {key : String} (h : key ∉ later.map (·.1))
    (vars : Variables) (earlier : List (String × Value)) (value : Value) :
    (vars.overwrite (earlier ++ (key, value) :: later)).get? key = some value := by
  rw [overwrite_append]
  show (overwrite ((vars.overwrite earlier).insert key value) later).get? key = _
  rw [get?_overwrite_of_not_mem h, Dictionary.get?_insert_self]

theorem contains_overwrite {vars : Variables} {key : String} (h : vars.contains key = true)
    (writes : List (String × Value)) : (vars.overwrite writes).contains key = true := by
  induction writes generalizing vars with
  | nil => exact h
  | cons w rest ih =>
    refine ih ?_
    unfold Dictionary.contains at h ⊢
    by_cases hk : key = w.1
    · rw [hk, Dictionary.get?_insert_self]
      rfl
    · rw [Dictionary.get?_insert_of_ne _ _ hk]
      exact h

end Dialogue.Variables
