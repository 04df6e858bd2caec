/-
Paths into values, such as `lead.status` or `items[0].name`. A path starts at a variable, its base,
and goes on by steps: the field of an object or the item of a list.

The text of a path is cut at its dots. Each part is a key with indices in square brackets behind
it; a part without key adds no field step, so `lead..status` is the path `lead.status`.
-/
import Dialogue.Text.Blank
import Dialogue.Document.Word

namespace Dialogue

/-- One step into a value. -/
inductive Step
  | field (key : String)
  | item (index : Nat)
deriving DecidableEq, Repr

/-- A variable and the steps to follow from its value. -/
structure Path where
  base : String
  steps : List Step
deriving DecidableEq, Repr

/-- The value that one step leads to. -/
def Value.step? (v : Value) : Step → Option Value
  | .field key => v.field? key
  | .item index => v.item? index

/-- The value that steps lead to, one after the other. -/
def Value.follow? (v : Value) : List Step → Option Value
  | [] => some v
  | s :: rest => (v.step? s).bind fun w => w.follow? rest

namespace Path

/-- The number of an index, blanks around it allowed. -/
def index? (s : List Char) : Option Nat :=
  match Text.trimChars s with
  | '+' :: ds => Word.digits? 10 maxInteger ds
  | ds => Word.digits? 10 maxInteger ds

/-- An index that is open to its left: what stands before a closing bracket. -/
def opened? : List Char → Option Nat
  | '[' :: s => index? s
  | _ => none

/-- Indices `[i][j]...` that are all of a text. -/
def indices? (s : List Char) : Option (List Nat) :=
  match (s.splitOn ']').reverse with
  | [] :: parts => parts.reverse.mapM opened?
  | _ => none

/-- A part of a path: its key and its indices. -/
def part? (s : List Char) : Option (String × List Nat) :=
  (indices? (s.dropWhile (· ≠ '['))).map fun is => (String.ofList (s.takeWhile (· ≠ '[')), is)

/-- The steps of a part behind a dot. -/
def partSteps (part : String × List Nat) : List Step :=
  (if part.1 = "" then [] else [.field part.1]) ++ part.2.map .item

/-- The path that a text writes. -/
def read? (s : List Char) : Option Path :=
  match s.splitOn '.' with
  | [] => none
  | first :: rest => do
    let base ← part? first
    let parts ← rest.mapM part?
    return ⟨base.1, base.2.map .item ++ parts.flatMap partSteps⟩

end Path

end Dialogue
