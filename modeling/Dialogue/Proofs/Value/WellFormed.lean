/-
Values that can be told apart by what is written of them. A value is well formed if every number in it is an
integer or a finite double and the fields of every object in it are in order. Variables are well formed if
their values are, and they stay so under every way of changing them.
-/
import Dialogue.Proofs.Variables.Write

namespace Dialogue

/-! ## Entries -/

namespace Entries

variable {α : Type}

theorem mem_insert {key : String} {value : α} {entries : List (String × α)} {e : String × α}
    (h : e ∈ insert key value entries) : e = (key, value) ∨ e ∈ entries := by
  induction entries with
  | nil => exact .inl (List.mem_singleton.1 h)
  | cons first rest ih =>
    unfold insert at h
    split at h
    · exact List.mem_cons.1 h
    · split at h
      · exact (List.mem_cons.1 h).imp_right (List.mem_cons_of_mem _)
      · rcases List.mem_cons.1 h with rfl | h
        · exact .inr List.mem_cons_self
        · exact (ih h).imp_right (List.mem_cons_of_mem _)

theorem mem_ofList {pairs : List (String × α)} {e : String × α} (h : e ∈ ofList pairs) : e ∈ pairs := by
  suffices ∀ entries : List (String × α), e ∈ pairs.foldl (fun entries p => insert p.1 p.2 entries) entries →
      e ∈ entries ∨ e ∈ pairs from (this [] h).resolve_left List.not_mem_nil
  clear h
  induction pairs with
  | nil => exact fun entries h => .inl h
  | cons p rest ih =>
    intro entries h
    rcases ih _ h with h | h
    · rcases mem_insert h with rfl | h
      · exact .inr List.mem_cons_self
      · exact .inl h
    · exact .inr (List.mem_cons_of_mem _ h)

/-- A key behind all others is added at the end. -/
theorem insert_of_forall_lt {key : String} {entries : List (String × α)} (h : ∀ e ∈ entries, e.1 < key)
    (value : α) : insert key value entries = entries ++ [(key, value)] := by
  induction entries with
  | nil => rfl
  | cons e rest ih =>
    obtain ⟨he, hrest⟩ := List.forall_mem_cons.1 h
    have hlt : ¬ key < e.1 := fun hk => String.lt_irrefl _ (String.lt_trans hk he)
    have hne : e.1 ≠ key := fun hk => String.lt_irrefl _ (hk ▸ he)
    rw [insert, if_neg hlt, if_neg hne, ih hrest, List.cons_append]

/-- Entries in order are those of the list that they are. -/
theorem ofList_of_ordered {entries : List (String × α)} (h : Ordered entries) : ofList entries = entries := by
  suffices ∀ first : List (String × α), (∀ a ∈ first, ∀ b ∈ entries, a.1 < b.1) →
      entries.foldl (fun entries p => insert p.1 p.2 entries) first = first ++ entries from
    this [] fun _ ha => absurd ha List.not_mem_nil
  induction entries with
  | nil => exact fun first _ => (List.append_nil first).symm
  | cons e rest ih =>
    intro first hfirst
    obtain ⟨he, hrest⟩ := List.pairwise_cons.1 h
    have hmove : ∀ a ∈ first ++ [e], ∀ b ∈ rest, a.1 < b.1 := by
      intro a ha b hb
      rcases List.mem_append.1 ha with ha | ha
      · exact hfirst a ha b (List.mem_cons_of_mem _ hb)
      · rw [List.mem_singleton.1 ha]
        exact he b hb
    rw [List.foldl_cons, insert_of_forall_lt fun a ha => hfirst a ha e List.mem_cons_self, ih hrest _ hmove,
      List.append_assoc, List.singleton_append]

end Entries

theorem Dictionary.ofList_entries {α : Type} (d : Dictionary α) : Dictionary.ofList d.entries = d := by
  unfold ofList
  congr 1
  exact Entries.ofList_of_ordered d.ordered

/-! ## Values -/

/-- Every number is an integer or a finite double, and the fields of every object are in order. -/
inductive Value.WellFormed : Value → Prop
  | null : WellFormed .null
  | bool {b : Bool} : WellFormed (.bool b)
  | integer {n : Int} : WellFormed (.number (.integer n))
  | double {x : Binary} : x.isFinite = true → WellFormed (.number (.double x))
  | text {s : String} : WellFormed (.text s)
  | list {vs : List Value} : (∀ v ∈ vs, WellFormed v) → WellFormed (.list vs)
  | object {fields : List (String × Value)} : Entries.Ordered fields → (∀ f ∈ fields, WellFormed f.2) →
    WellFormed (.object fields)

theorem Value.WellFormed.ofFields {fields : List (String × Value)} (h : ∀ f ∈ fields, f.2.WellFormed) :
    (Value.ofFields fields).WellFormed :=
  .object (Entries.ordered_ofList fields) fun f hf => h f (Entries.mem_ofList hf)

/-! ## Variables -/

namespace Variables

/-- All values are well formed. -/
def WellFormed (vars : Variables) : Prop := ∀ e ∈ vars.entries, e.2.WellFormed

theorem wellFormed_empty : WellFormed .empty := fun _ h => absurd h List.not_mem_nil

theorem wellFormed_ofList {pairs : List (String × Value)} (h : ∀ p ∈ pairs, p.2.WellFormed) :
    WellFormed (.ofList pairs) := fun e he => h e (Entries.mem_ofList he)

variable {vars : Variables}

theorem WellFormed.insert {value : Value} (h : vars.WellFormed) (hv : value.WellFormed) (name : String) :
    WellFormed (Dictionary.insert vars name value) := by
  intro e he
  rcases Entries.mem_insert he with rfl | he
  · exact hv
  · exact h e he

theorem WellFormed.overwrite {writes : List (String × Value)} (h : vars.WellFormed)
    (hw : ∀ w ∈ writes, w.2.WellFormed) : (vars.overwrite writes).WellFormed := by
  induction writes generalizing vars with
  | nil => exact h
  | cons w rest ih =>
    obtain ⟨hw, hrest⟩ := List.forall_mem_cons.1 hw
    exact ih (h.insert hw w.1) hrest

theorem WellFormed.store {value : Value} (h : vars.WellFormed) (hv : value.WellFormed) (name : String) :
    (vars.store name value).WellFormed := by
  unfold Variables.store
  split
  · exact h
  · exact h.insert hv name

theorem WellFormed.mergeDefaults {defaults : Variables} (h : vars.WellFormed) (hd : defaults.WellFormed) :
    (vars.mergeDefaults defaults).WellFormed := by
  unfold WellFormed at hd
  unfold Variables.mergeDefaults
  generalize defaults.entries = entries at hd ⊢
  induction entries generalizing vars with
  | nil => exact h
  | cons e rest ih =>
    obtain ⟨he, hrest⟩ := List.forall_mem_cons.1 hd
    rw [List.foldl_cons]
    split
    · exact ih h hrest
    · exact ih (h.insert he e.1) hrest

end Variables

end Dialogue
