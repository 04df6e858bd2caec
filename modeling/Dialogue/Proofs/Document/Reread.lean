/-
Documents that are written as text and read again. What comes back is the same tree with three differences: it is
strict and has no shared parts and no labels, a number that is not finite is null, and a number of single precision
is the number that its digits write, for text does not tell precisions apart. Settling leaves it as it is, and what
was written of a well-formed value comes back without any difference.
-/
import Dialogue.Document.Record
import Dialogue.Proofs.Value.WellFormed

namespace Dialogue

namespace Document

/-! ## The document that comes back -/

variable (digits : Binary → Number)

/-- The content that comes back of a leaf, where `digits` gives the number that the digits of a
single write. -/
def rereadScalar : Scalar → Scalar
  | .null => .null
  | .bool b => .bool b
  | .number (.integer n) => .number (.integer n)
  | .number (.double x) => if x.isFinite then .number (.double x) else .null
  | .number (.single x) => if x.isFinite then .number (digits x) else .null
  | .minusZero => .number (.integer 0)
  | .text s => .text s
  | .unreadable => .null

mutual
/-- The document that comes back when the text of a document is read. -/
def reread : Document → Document
  | .leaf l => .leaf (.strict (rereadScalar digits l.value))
  | .list _ ds => .list true (rereadAll ds)
  | .table _ entries => .table true (rereadEntries entries)
  | .labelled _ d => reread d
  | .shared d => reread d

/-- The documents of a list that come back. -/
def rereadAll : List Document → List Document
  | [] => []
  | d :: rest => reread d :: rereadAll rest

/-- The entries of a table that come back. -/
def rereadEntries : List (Document × Document) → List (Document × Document)
  | [] => []
  | (k, d) :: rest => (reread k, reread d) :: rereadEntries rest
end

variable {digits}

theorem rereadAll_eq (ds : List Document) : rereadAll digits ds = ds.map (reread digits) := by
  induction ds with
  | nil => rfl
  | cons d rest ih => simp [rereadAll, ih]

theorem rereadEntries_eq (entries : List (Document × Document)) :
    rereadEntries digits entries = entries.map fun e => (reread digits e.1, reread digits e.2) := by
  induction entries with
  | nil => rfl
  | cons e rest ih => simp [rereadEntries, ih]

@[simp] theorem reread_null : reread digits null = null := rfl

@[simp] theorem reread_bool (b : Bool) : reread digits (bool b) = bool b := rfl

@[simp] theorem reread_text (s : String) : reread digits (text s) = text s := rfl

@[simp] theorem reread_nat (n : Nat) : reread digits (nat n) = nat n := rfl

theorem reread_double {x : Binary} (h : x.isFinite = true) :
    reread digits (number (.double x)) = number (.double x) := by
  simp [number, reread, rereadScalar, Leaf.strict, h]

theorem reread_single {x : Binary} (h : x.isFinite = true) :
    reread digits (number (.single x)) = number (digits x) := by
  simp [number, reread, rereadScalar, Leaf.strict, h]

@[simp] theorem reread_textOrNull (s : Option String) :
    reread digits (textOrNull s) = textOrNull s := by
  cases s <;> rfl

@[simp] theorem reread_items (ds : List Document) :
    reread digits (items ds) = items (ds.map (reread digits)) := by
  simp [items, reread, rereadAll_eq]

/-- The fields of a record that come back. -/
def rereadFields (digits : Binary → Number) (fields : List (String × Document)) :
    List (String × Document) :=
  fields.map fun f => (f.1, reread digits f.2)

@[simp] theorem reread_record (fields : List (String × Document)) :
    reread digits (record fields) = record (rereadFields digits fields) := by
  simp [record, reread, rereadEntries_eq, rereadFields]

@[simp] theorem rereadFields_nil : rereadFields digits [] = [] := rfl

@[simp] theorem rereadFields_cons (name : String) (d : Document)
    (rest : List (String × Document)) :
    rereadFields digits ((name, d) :: rest) = (name, reread digits d) :: rereadFields digits rest :=
  rfl

@[simp] theorem rereadFields_append (xs ys : List (String × Document)) :
    rereadFields digits (xs ++ ys) = rereadFields digits xs ++ rereadFields digits ys :=
  List.map_append

@[simp] theorem rereadFields_given (name : String) (d : Option Document) :
    rereadFields digits (given name d) = given name (d.map (reread digits)) := by
  cases d <;> rfl

@[simp] theorem rereadFields_listed (name : String) (ds : List Document) :
    rereadFields digits (listed name ds) = listed name (ds.map (reread digits)) := by
  cases ds with
  | nil => rfl
  | cons d rest => simp [listed]

/-! ## Settling -/

theorem rereadScalar_ne_unreadable (s : Scalar) : rereadScalar digits s ≠ .unreadable := by
  unfold rereadScalar
  split <;> (try split) <;> exact nofun

mutual
/-- Settling leaves what comes back as it is. -/
theorem settle_reread : ∀ d : Document,
    settle (reread digits d) = pure (reread digits d)
  | .leaf l => by simp [reread, settle, Leaf.strict, rereadScalar_ne_unreadable]
  | .list _ ds => by simp [reread, settle, settleAll_reread ds]
  | .table _ entries => by simp [reread, settle, settleEntries_reread entries]
  | .labelled _ d => by rw [reread]; exact settle_reread d
  | .shared d => by rw [reread]; exact settle_reread d

theorem settleAll_reread : ∀ ds : List Document,
    settleAll (rereadAll digits ds) = pure (rereadAll digits ds)
  | [] => rfl
  | d :: rest => by simp [rereadAll, settleAll, settle_reread d, settleAll_reread rest]

theorem settleEntries_reread : ∀ entries : List (Document × Document),
    settleEntries (rereadEntries digits entries) = pure (rereadEntries digits entries)
  | [] => rfl
  | (k, d) :: rest => by
    simp [rereadEntries, settleEntries, settle_reread k, settle_reread d,
      settleEntries_reread rest]
end

/-! ## Values -/

theorem ofValues_eq (vs : List Value) : ofValues vs = vs.map ofValue := by
  induction vs with
  | nil => rfl
  | cons v rest ih => rw [ofValues, ih, List.map_cons]

theorem ofFields_eq (fields : List (String × Value)) :
    ofFields fields = fields.map fun f => (text f.1, ofValue f.2) := by
  induction fields with
  | nil => rfl
  | cons f rest ih => rw [ofFields, ih, List.map_cons]

/-- A well-formed value comes back as it was written. -/
theorem reread_ofValue {v : Value} (h : v.WellFormed) : reread digits (ofValue v) = ofValue v := by
  induction h with
  | null => rfl
  | bool => rfl
  | integer => rfl
  | double hx => exact reread_double hx
  | text => rfl
  | list hvs ih =>
    simp only [ofValue, ofValues_eq, reread, rereadAll_eq, List.map_map]
    congr 1
    exact List.map_congr_left ih
  | object ho hf ih =>
    simp only [ofValue, ofFields_eq, reread, rereadEntries_eq, List.map_map]
    congr 1
    refine List.map_congr_left fun f hf => ?_
    exact Prod.ext rfl (ih f hf)

end Document

end Dialogue
