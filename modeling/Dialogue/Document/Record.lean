/-
Reading collections, records and variants from documents: the readers that open a list, a
dictionary, a record, a choice among names or a variant, whose parts then have readers of their own.

A record is a table with the known fields at most once each (other keys are skipped), or, in a
strict document, a list of the first fields in order. A field may be required or have a default.
-/
import Dialogue.Document.Read

namespace Dialogue

namespace Document

/-! ## Collections -/

/-- A list of parts that all have the same type. -/
def listOf? {α : Type} (read : Document → Read α) (d : Document) : Read (List α) := do
  match ← d.content with
  | .list _ ds => ds.mapM read
  | d => if d.isLeaf Leaf.isNothing then return [] else failure

/-- A dictionary whose values all have the same type. -/
def dictionaryOf? {α : Type} (read : Document → Read α) (d : Document) :
    Read (Dictionary α) := do
  match ← d.content with
  | .table _ entries =>
    let fields ← entries.mapM fun (e : Document × Document) => do
      let key ← e.1.text?
      let v ← read e.2
      return (key, v)
    return .ofList fields
  | d => if d.isLeaf Leaf.isNothing then return .empty else failure

/-! ## Records -/

/-- The field that a key names: `none` for a key that names no field of the record, no result for
a key that cannot name one. A number names the field at that position. -/
def fieldName? (names : List String) (key : Document) : Read (Option String) := do
  let l ← key.leaf?
  match l.written with
  | some s => return if s ∈ names then some s else none
  | none => return names[← Read.found l.position?]?

/-- The known fields among the entries of a table, each at most once. -/
def knownFields? (names : List String) :
    List (Document × Document) → Read (List (String × Document))
  | [] => return []
  | (key, d) :: rest => do
    let name ← fieldName? names key
    let fields ← knownFields? names rest
    match name with
    | none => return fields
    | some name =>
      if (Entries.find? name fields).isSome then failure else return (name, d) :: fields

/-- The fields of a record with the given field names. -/
def record? (names : List String) (d : Document) : Read (List (String × Document)) := do
  match ← d.content with
  | .table _ entries => knownFields? names entries
  | .list strict ds =>
    if strict ∧ ds.length ≤ names.length then return names.zip ds else failure
  | d => if d.isLeaf Leaf.isNothing then return [] else failure

/-- A field that must be there. -/
def required? {α : Type} (fields : List (String × Document)) (name : String)
    (read : Document → Read α) : Read α := do
  read (← Read.found (Entries.find? name fields))

/-- A field that has a default. -/
def optional? {α : Type} (fields : List (String × Document)) (name : String) (default : α)
    (read : Document → Read α) : Read α :=
  match Entries.find? name fields with
  | none => return default
  | some d => read d

/-! ## Choices and variants -/

/-- One of a list of named values: its name, or in a strict document a table from the name to null,
or a label with the name on null. -/
def choice? {α : Type} (names : List (String × α)) (d : Document) : Read α := do
  let name ← match ← d.follow with
    | .leaf l => Read.found l.written
    | .table true [(key, d)] => if d.isLeaf Leaf.isNull then key.text? else failure
    | .labelled label d => if d.isLeaf Leaf.isNullWord then pure label else failure
    | _ => failure
  Read.found (Entries.find? name names)

/-- Whether a strict document is a given text. -/
def isText (s : String) (d : Document) : Bool := d.isLeaf fun l => l.written == some s

/-- The documents at a given key of a table as they are, and the strict entries that the other ones
stand for. -/
def splitKey (name : String) :
    List (Document × Document) → Read (List Document × List (Document × Document))
  | [] => return ([], [])
  | (key, d) :: rest => do
    let key ← key.settle
    if key.isText name then
      let (found, others) ← splitKey name rest
      return (d :: found, others)
    else
      let d ← d.settle
      let (found, others) ← splitKey name rest
      return (found, (key, d) :: others)

/-- A variant: a table in which one key holds the variant's name, or a list that starts with the
name. The result is the name and the strict rest. -/
def variant? (tag : String) (d : Document) : Read (String × Document) := do
  match ← d.follow with
  | .table _ entries =>
    match ← splitKey tag entries with
    | ([d], others) => return (← d.text?, .table true others)
    | _ => failure
  | .list _ (d :: ds) =>
    let name ← d.text?
    return (name, .list true (← settleAll ds))
  | _ => failure

end Document

end Dialogue
