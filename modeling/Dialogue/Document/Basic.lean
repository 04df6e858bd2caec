/-
Documents: trees of leaves, lists and tables, as they are read from a text or are to be written to
one, before it is known which type they describe. A document keeps what a typed value loses: the
order of fields, repeated keys, the spelling of unquoted leaves, custom labels, and which parts are
references to a part that is written elsewhere.

A *strict* document has leaves that are exactly what they are written as, and its lists may stand
for records (the items being the fields in order). In a *loose* document an unquoted leaf is read
as the type that is expected: the word `5` is a number where a number is wanted and the text `5`
where a text is.
-/
import Dialogue.Document.Word

namespace Dialogue

/-- A leaf: its content, the text it has where text is expected, how it is written, and the type
that it is declared to have, if any. A truth value or number without text belongs to a strict
document. -/
structure Leaf where
  value : Scalar
  written : Option String
  style : LeafStyle
  declared : Option ScalarType
deriving DecidableEq, Repr

/-- The leaf of a strict document with a given content. -/
def Leaf.strict (value : Scalar) : Leaf :=
  ⟨value, match value with | .text s => some s | _ => none, .other, none⟩

/-- A tree of leaves, lists and tables; a part may carry a custom label, or be shared: written once
and referred to here. -/
inductive Document
  | leaf (content : Leaf)
  | list (strict : Bool) (items : List Document)
  | table (strict : Bool) (entries : List (Document × Document))
  | labelled (label : String) (content : Document)
  | shared (content : Document)
deriving Repr

namespace Document

instance : Inhabited Document := ⟨.leaf (.strict .null)⟩

/-- A document without its label. -/
def unlabelled : Document → Document
  | .labelled _ d => d
  | d => d

/-! ## Writing -/

/-- The document of null. -/
def null : Document := .leaf (.strict .null)

/-- The document of a truth value. -/
def bool (b : Bool) : Document := .leaf (.strict (.bool b))

/-- The document of a number. -/
def number (n : Number) : Document := .leaf (.strict (.number n))

/-- The document of a natural number. -/
def nat (n : Nat) : Document := number (.integer n)

/-- The document of a text. -/
def text (s : String) : Document := .leaf (.strict (.text s))

/-- The document of a text that may be missing. -/
def textOrNull (s : Option String) : Document := match s with
  | some s => text s
  | none => null

/-- The document of a list. -/
def items (ds : List Document) : Document := .list true ds

/-- The document of a list of texts. -/
def texts (ss : List String) : Document := items (ss.map text)

/-- A field that is left out when it is missing. -/
def given (name : String) (d : Option Document) : List (String × Document) :=
  d.toList.map fun d => (name, d)

/-- A field of a list that is left out when the list is empty. -/
def listed (name : String) (ds : List Document) : List (String × Document) :=
  if ds.isEmpty then [] else [(name, items ds)]

/-- The document of a record. -/
def record (fields : List (String × Document)) : Document :=
  .table true (fields.map fun f => (text f.1, f.2))

mutual
/-- The document of a value. -/
def ofValue : Value → Document
  | .null => null
  | .bool b => bool b
  | .number n => number n
  | .text s => text s
  | .list vs => .list true (ofValues vs)
  | .object fields => .table true (ofFields fields)

/-- The documents of a list of values. -/
def ofValues : List Value → List Document
  | [] => []
  | v :: rest => ofValue v :: ofValues rest

/-- The entries of the fields of an object. -/
def ofFields : List (String × Value) → List (Document × Document)
  | [] => []
  | (k, v) :: rest => (text k, ofValue v) :: ofFields rest
end

/-! ## Nesting -/

mutual
/-- A document in which the lists and tables below `depth` levels are unreadable. They do no harm
where nothing reads them. -/
def capped (depth : Nat) : Document → Document
  | .leaf l => .leaf l
  | .list s ds => match depth with
    | 0 => .leaf (.strict .unreadable)
    | n + 1 => .list s (cappedAll n ds)
  | .table s entries => match depth with
    | 0 => .leaf (.strict .unreadable)
    | n + 1 => .table s (cappedEntries n entries)
  | .labelled l d => .labelled l (capped depth d)
  | .shared d => .shared (capped depth d)

/-- The documents of a list, capped. -/
def cappedAll (depth : Nat) : List Document → List Document
  | [] => []
  | d :: rest => capped depth d :: cappedAll depth rest

/-- The entries of a table, capped. -/
def cappedEntries (depth : Nat) : List (Document × Document) → List (Document × Document)
  | [] => []
  | (k, d) :: rest => (capped depth k, capped depth d) :: cappedEntries depth rest
end

end Document

end Dialogue
