/-
How deep the lists and tables of a document are nested, and what becomes of one that is nested too deep. Capping a
document changes it only if it is, and then it is no longer readable: no reader that looks at all of it finds anything,
however many references it may follow.
-/
import Dialogue.Proofs.Document.Readers

namespace Dialogue

/-! ## Readers that find something -/

namespace Read

variable {α β : Type} {read : Read α} {next : α → Read β}

/-- Whether a reader finds something if it may follow enough references. -/
def Finds (read : Read α) : Prop := ∃ budget found, read budget = some found

theorem not_finds_failure : ¬ Finds (failure : Read α) := fun ⟨_, _, h⟩ => nomatch h

/-- One reader after another finds something only if both do. -/
theorem Finds.of_bind (h : Finds (read >>= next)) : Finds read ∧ ∃ a, Finds (next a) := by
  obtain ⟨budget, found, h⟩ := h
  obtain ⟨⟨a, left⟩, hread, hnext⟩ := Option.bind_eq_some_iff.1 h
  exact ⟨⟨budget, _, hread⟩, a, left, found, hnext⟩

theorem Finds.of_mapM {γ : Type} {read : γ → Read α} {cs : List γ} (h : Finds (cs.mapM read)) :
    ∀ c ∈ cs, Finds (read c) := by
  induction cs with
  | nil => exact fun c hc => absurd hc List.not_mem_nil
  | cons c cs ih =>
    rw [List.mapM_cons] at h
    obtain ⟨hc, a, hrest⟩ := h.of_bind
    exact List.forall_mem_cons.2 ⟨hc, ih hrest.of_bind.1⟩

end Read

namespace Document

/-! ## Nesting -/

mutual
/-- How many lists and tables of a document are at most inside each other. -/
def nesting : Document → Nat
  | .leaf _ => 0
  | .list _ ds => nestingAll ds + 1
  | .table _ entries => nestingEntries entries + 1
  | .labelled _ d => nesting d
  | .shared d => nesting d

/-- The greatest nesting of the items of a list. -/
def nestingAll : List Document → Nat
  | [] => 0
  | d :: rest => max (nesting d) (nestingAll rest)

/-- The greatest nesting of the keys and documents of a table. -/
def nestingEntries : List (Document × Document) → Nat
  | [] => 0
  | (k, d) :: rest => max (max (nesting k) (nesting d)) (nestingEntries rest)
end

variable {n : Nat}

theorem nestingAll_le_iff {ds : List Document} : nestingAll ds ≤ n ↔ ∀ d ∈ ds, d.nesting ≤ n := by
  induction ds with
  | nil => simp [nestingAll]
  | cons d rest ih => rw [nestingAll, Nat.max_le, ih, List.forall_mem_cons]

theorem nestingEntries_le_iff {entries : List (Document × Document)} :
    nestingEntries entries ≤ n ↔ ∀ e ∈ entries, e.1.nesting ≤ n ∧ e.2.nesting ≤ n := by
  induction entries with
  | nil => simp [nestingEntries]
  | cons e rest ih => rw [nestingEntries, Nat.max_le, Nat.max_le, ih, List.forall_mem_cons]

/-- The keys of a record are not nested at all. -/
theorem nesting_record_le_iff {fields : List (String × Document)} :
    (record fields).nesting ≤ n + 1 ↔ ∀ f ∈ fields, f.2.nesting ≤ n := by
  rw [record, nesting, Nat.add_le_add_iff_right, nestingEntries_le_iff, List.forall_mem_map]
  refine forall₂_congr fun f _ => ?_
  exact and_iff_right (Nat.zero_le n)

theorem nesting_items_le_iff {ds : List Document} : (items ds).nesting ≤ n + 1 ↔ ∀ d ∈ ds, d.nesting ≤ n := by
  rw [items, nesting, Nat.add_le_add_iff_right, nestingAll_le_iff]

/-! ## Capping -/

theorem cappedAll_eq (n : Nat) (ds : List Document) : cappedAll n ds = ds.map (capped n) := by
  induction ds with
  | nil => rfl
  | cons d rest ih => rw [cappedAll, ih, List.map_cons]

theorem cappedEntries_eq (n : Nat) (entries : List (Document × Document)) :
    cappedEntries n entries = entries.map fun e => (e.1.capped n, e.2.capped n) := by
  induction entries with
  | nil => rfl
  | cons e rest ih => rw [cappedEntries, ih, List.map_cons]

theorem capped_items (n : Nat) (ds : List Document) : (items ds).capped (n + 1) = items (ds.map (capped n)) := by
  rw [items, capped, cappedAll_eq]
  rfl

theorem capped_record (n : Nat) (fields : List (String × Document)) :
    (record fields).capped (n + 1) = record (fields.map fun f => (f.1, f.2.capped n)) := by
  rw [record, capped, cappedEntries_eq, record, List.map_map, List.map_map]
  rfl

mutual
/-- Capping leaves a document as it is that is not nested too deep. -/
theorem capped_of_nesting_le : ∀ (d : Document) (n : Nat), d.nesting ≤ n → d.capped n = d
  | .leaf _, _, _ => rfl
  | .list _ _, 0, h => absurd h (by simp [nesting])
  | .list _ ds, n + 1, h => by rw [capped, cappedAll_of_nesting_le ds n (Nat.le_of_succ_le_succ h)]
  | .table _ _, 0, h => absurd h (by simp [nesting])
  | .table _ entries, n + 1, h => by rw [capped, cappedEntries_of_nesting_le entries n (Nat.le_of_succ_le_succ h)]
  | .labelled _ d, n, h => by rw [capped, capped_of_nesting_le d n h]
  | .shared d, n, h => by rw [capped, capped_of_nesting_le d n h]

theorem cappedAll_of_nesting_le : ∀ (ds : List Document) (n : Nat), nestingAll ds ≤ n → cappedAll n ds = ds
  | [], _, _ => rfl
  | d :: rest, n, h => by
    rw [nestingAll, Nat.max_le] at h
    rw [cappedAll, capped_of_nesting_le d n h.1, cappedAll_of_nesting_le rest n h.2]

theorem cappedEntries_of_nesting_le : ∀ (entries : List (Document × Document)) (n : Nat),
    nestingEntries entries ≤ n → cappedEntries n entries = entries
  | [], _, _ => rfl
  | (k, d) :: rest, n, h => by
    rw [nestingEntries, Nat.max_le, Nat.max_le] at h
    rw [cappedEntries, capped_of_nesting_le k n h.1.1, capped_of_nesting_le d n h.1.2,
      cappedEntries_of_nesting_le rest n h.2]
end

/-! ## Settling what is capped -/

theorem not_finds_settle_unreadable : ¬ (settle (.leaf (.strict .unreadable))).Finds := Read.not_finds_failure

mutual
/-- A capped document is settled only if it was not nested too deep. -/
theorem nesting_le_of_settle : ∀ (d : Document) (n : Nat), (settle (d.capped n)).Finds → d.nesting ≤ n
  | .leaf _, n, _ => Nat.zero_le n
  | .list _ _, 0, h => absurd h not_finds_settle_unreadable
  | .list _ ds, n + 1, h => by
    rw [capped, settle] at h
    exact Nat.succ_le_succ (nestingAll_le_of_settle ds n h.of_bind.1)
  | .table _ _, 0, h => absurd h not_finds_settle_unreadable
  | .table _ entries, n + 1, h => by
    rw [capped, settle] at h
    exact Nat.succ_le_succ (nestingEntries_le_of_settle entries n h.of_bind.1)
  | .labelled _ d, n, h => by
    rw [capped, settle] at h
    exact absurd h Read.not_finds_failure
  | .shared d, n, h => by
    rw [capped, settle] at h
    obtain ⟨-, _, h⟩ := h.of_bind
    exact nesting_le_of_settle d n h

theorem nestingAll_le_of_settle : ∀ (ds : List Document) (n : Nat),
    (settleAll (cappedAll n ds)).Finds → nestingAll ds ≤ n
  | [], n, _ => Nat.zero_le n
  | d :: rest, n, h => by
    rw [cappedAll, settleAll] at h
    obtain ⟨hd, _, h⟩ := h.of_bind
    exact Nat.max_le.2 ⟨nesting_le_of_settle d n hd, nestingAll_le_of_settle rest n h.of_bind.1⟩

theorem nestingEntries_le_of_settle : ∀ (entries : List (Document × Document)) (n : Nat),
    (settleEntries (cappedEntries n entries)).Finds → nestingEntries entries ≤ n
  | [], n, _ => Nat.zero_le n
  | (k, d) :: rest, n, h => by
    rw [cappedEntries, settleEntries] at h
    obtain ⟨hk, _, h⟩ := h.of_bind
    obtain ⟨hd, _, h⟩ := h.of_bind
    exact Nat.max_le.2 ⟨Nat.max_le.2 ⟨nesting_le_of_settle k n hk, nesting_le_of_settle d n hd⟩,
      nestingEntries_le_of_settle rest n h.of_bind.1⟩
end

/-! ## Values of what is capped -/

mutual
/-- A value is read of its capped document only if it was not nested too deep. -/
theorem nesting_ofValue_le : ∀ (v : Value) (n : Nat), (value? ((ofValue v).capped n)).Finds → (ofValue v).nesting ≤ n
  | .null, n, _ => Nat.zero_le n
  | .bool _, n, _ => Nat.zero_le n
  | .number _, n, _ => Nat.zero_le n
  | .text _, n, _ => Nat.zero_le n
  | .list _, 0, h => absurd h Read.not_finds_failure
  | .list vs, n + 1, h => by
    rw [ofValue, capped, value?] at h
    exact Nat.succ_le_succ (nesting_ofValues_le vs n h.of_bind.1)
  | .object _, 0, h => absurd h Read.not_finds_failure
  | .object fields, n + 1, h => by
    rw [ofValue, capped, value?] at h
    exact Nat.succ_le_succ (nesting_ofFields_le fields n h.of_bind.1)

theorem nesting_ofValues_le : ∀ (vs : List Value) (n : Nat),
    (values? (cappedAll n (ofValues vs))).Finds → nestingAll (ofValues vs) ≤ n
  | [], n, _ => Nat.zero_le n
  | v :: rest, n, h => by
    rw [ofValues, cappedAll, values?] at h
    obtain ⟨hv, _, h⟩ := h.of_bind
    exact Nat.max_le.2 ⟨nesting_ofValue_le v n hv, nesting_ofValues_le rest n h.of_bind.1⟩

theorem nesting_ofFields_le : ∀ (fields : List (String × Value)) (n : Nat),
    (fields? (cappedEntries n (ofFields fields))).Finds → nestingEntries (ofFields fields) ≤ n
  | [], n, _ => Nat.zero_le n
  | (k, v) :: rest, n, h => by
    rw [ofFields, cappedEntries, fields?] at h
    obtain ⟨_, _, h⟩ := h.of_bind
    obtain ⟨hv, _, h⟩ := h.of_bind
    exact Nat.max_le.2 ⟨Nat.max_le.2 ⟨Nat.zero_le n, nesting_ofValue_le v n hv⟩, nesting_ofFields_le rest n h.of_bind.1⟩
end

end Document

end Dialogue
