/-
Reading parts of documents. A reader may fail, and it spends from a budget of references: each time
it comes upon a shared part it follows one, and without any left it fails. What no reader looks at
costs nothing, so a document may refer to itself or stand for a tree of any size. A document without
shared parts is read the same whatever the budget.

Here are the readers of leaves, the reader of any value, and `settle`, which turns a loose document
into the strict one that its words stand for.
-/
import Dialogue.Document.Basic

namespace Dialogue

/-- A reader: it may fail, and its state is the number of references that it may still follow. -/
abbrev Read (α : Type) := StateT Nat Option α

namespace Read

/-- What was found, or else a failure. -/
def found {α : Type} (a : Option α) : Read α := StateT.lift a

/-- Spends one reference. -/
def spend : Read Unit := fun budget =>
  match budget with
  | 0 => none
  | left + 1 => some ((), left)

/-- What a reader gives if it may follow a number of references. -/
def within {α : Type} (read : Read α) (budget : Nat) : Option α := (read.run budget).map (·.1)

end Read

/-- A document that was read of a text, and how many references may be followed in it. -/
structure Source where
  document : Document
  budget : Nat

/-- What a reader gives of a source. -/
def Source.read? {α : Type} (s : Source) (read : Document → Read α) : Option α :=
  (read s.document).within s.budget

/-! ## Leaves -/

namespace Leaf

/-- Whether a leaf is read as a word of a type: one without quotes always is, and a block of literal
lines if it is declared to have that type. -/
def isWordOf (l : Leaf) (type : ScalarType) : Bool :=
  l.style == .plain || l.style == .literal && l.declared == some type

/-- A truth value. -/
def bool? (l : Leaf) : Option Bool :=
  if l.isWordOf .bool then l.written.bind Word.bool?
  else match l.value, l.written with
    | .bool b, none => some b
    | _, _ => none

/-- A natural number. -/
def natural? (l : Leaf) : Option Nat :=
  if l.isWordOf .integer then l.written.bind fun s => Word.natural? maxInteger s.toList
  else match l.value.number?, l.written with
    | some (.integer n), none => if 0 ≤ n then some n.toNat else none
    | _, _ => none

/-- A position: a natural number without a sign in a strict document. -/
def position? (l : Leaf) : Option Nat :=
  match l.value, l.written with
  | .number (.integer n), none => if 0 ≤ n then some n.toNat else none
  | _, _ => none

/-- A number, an integer counting as a number with a fraction. -/
def number? (l : Leaf) : Option Number :=
  if l.isWordOf .float then (l.written.bind Word.float?).map .double
  else if l.written.isNone then l.value.number? else none

/-- The value of a leaf. A number that is not finite has no value but null. -/
def anyValue? (l : Leaf) : Option Value :=
  match l.value with
  | .null => some .null
  | .bool b => some (.bool b)
  | .number (.double x) => some (if x.isFinite then .number (.double x) else .null)
  | .number n => some (.number n)
  | .minusZero => some (.number (.integer 0))
  | .text s => some (.text s)
  | .unreadable => none

/-- Whether a leaf is null where null means that something is missing: a quoted text never is, and
neither is what is declared to have another type. -/
def isNull (l : Leaf) : Bool :=
  decide (l.value = .null)
    && (l.written.isNone || l.style == .plain && l.declared.all (· == .null))

/-- Whether a leaf is an unquoted word that stands for null, or no word at all. -/
def isNullWord (l : Leaf) : Bool := decide (l.value = .null) && l.style == .plain

/-- Whether an unquoted leaf is declared to be null and is not. -/
def isBrokenNull (l : Leaf) : Bool :=
  l.style == .plain && l.declared == some .null && decide (l.value ≠ .null)

/-- Whether a leaf is unquoted and without any text. It stands for an empty list or table. -/
def isNothing (l : Leaf) : Bool := l.style == .plain && l.written == some ""

end Leaf

namespace Document

/-- The document that a reference leads to, at the price of a reference. -/
def follow : Document → Read Document
  | .shared d => do
    Read.spend
    follow d
  | d => return d

/-- The document that is read: references are followed and the label does not count. -/
def content (d : Document) : Read Document := do return (← d.follow).unlabelled

/-- The leaf that a document is. -/
def leaf? (d : Document) : Read Leaf := do
  match ← d.content with
  | .leaf l => return l
  | _ => failure

/-- The text of a leaf where text is expected. -/
def text? (d : Document) : Read String := do Read.found (← d.leaf?).written

/-- A truth value. -/
def bool? (d : Document) : Read Bool := do Read.found (← d.leaf?).bool?

/-- A position in a list. -/
def position? (d : Document) : Read Nat := do Read.found (← d.leaf?).position?

/-- A natural number that is at most `limit`. -/
def natural? (limit : Nat) (d : Document) : Read Nat := do
  Read.found ((← d.leaf?).natural?.filter (· ≤ limit))

/-- A number in double precision. -/
def double? (d : Document) : Read Binary := do
  return (← Read.found (← d.leaf?).number?).toDouble

/-- A number in single precision. -/
def single? (d : Document) : Read Binary := do
  return (← Read.found (← d.leaf?).number?).toSingle

/-- Whether a document is a leaf with a property, its label being part of it. -/
def isLeaf (p : Leaf → Bool) : Document → Bool
  | .leaf l => p l
  | _ => false

/-- What may be null. -/
def nullable? {α : Type} (read : Document → Read α) (d : Document) : Read (Option α) := do
  let d ← d.follow
  if d.isLeaf Leaf.isBrokenNull then failure
  else if d.isLeaf Leaf.isNull then return none
  else return some (← read d)

/-! ## Any value -/

mutual
/-- The value that a document describes. A key of a table counts once, with its last value;
labelled parts describe none. -/
def value? : Document → Read Value
  | .leaf l => Read.found l.anyValue?
  | .list _ ds => do return .list (← values? ds)
  | .table _ entries => do return Value.ofFields (← fields? entries)
  | .labelled _ _ => failure
  | .shared d => do
    Read.spend
    value? d

/-- The values that a list of documents describes. -/
def values? : List Document → Read (List Value)
  | [] => return []
  | d :: rest => do
    let v ← value? d
    let vs ← values? rest
    return v :: vs

/-- The fields that the entries of a table describe. -/
def fields? : List (Document × Document) → Read (List (String × Value))
  | [] => return []
  | (k, d) :: rest => do
    let key ← text? k
    let v ← value? d
    let fields ← fields? rest
    return (key, v) :: fields
end

mutual
/-- The strict document that a loose one stands for; none when a part of it is unreadable or
labelled. -/
def settle : Document → Read Document
  | .leaf l => if l.value = .unreadable then failure else return .leaf (.strict l.value)
  | .list _ ds => do return .list true (← settleAll ds)
  | .table _ entries => do return .table true (← settleEntries entries)
  | .labelled _ _ => failure
  | .shared d => do
    Read.spend
    settle d

/-- The strict documents that a list of loose ones stands for. -/
def settleAll : List Document → Read (List Document)
  | [] => return []
  | d :: rest => do
    let d ← settle d
    let ds ← settleAll rest
    return d :: ds

/-- The strict entries that loose ones stand for. -/
def settleEntries : List (Document × Document) → Read (List (Document × Document))
  | [] => return []
  | (k, d) :: rest => do
    let k ← settle k
    let d ← settle d
    let entries ← settleEntries rest
    return (k, d) :: entries
end

end Document

end Dialogue
