/-
Templates: texts with placeholders `{{name}}`, blanks allowed around the name. A template is cut
once, from left to right, into plain characters and placeholders; then every placeholder whose name
has a value is replaced by the text of the value and all else stays as it is written. What is put
in is never looked at again.
-/
import Dialogue.Text.Word
import Dialogue.Variables.Store

namespace Dialogue

/-- A placeholder as it is written, and the name in it. -/
structure Placeholder where
  written : List Char
  name : List Char
deriving DecidableEq, Repr

/-- A piece of a template. -/
inductive Piece
  | plain (c : Char)
  | placeholder (p : Placeholder)
deriving DecidableEq, Repr

namespace Template

/-- The name that a text starts with, as long as possible, and what follows it. -/
def name? : List Char → Option (List Char × List Char)
  | c :: r =>
    if Text.startsName c then
      some (c :: r.takeWhile Text.continuesName, r.dropWhile Text.continuesName)
    else none
  | [] => none

/-- The placeholder that a text starts with. -/
def placeholder? (s : List Char) : Option Placeholder :=
  match s with
  | '\x7b' :: '\x7b' :: r =>
    match name? (Text.trimStart r) with
    | none => none
    | some (name, rest) => match Text.trimStart rest with
      | '\x7d' :: '\x7d' :: _ =>
        some ⟨['\x7b', '\x7b'] ++ r.takeWhile Text.isBlank ++ name ++ rest.takeWhile Text.isBlank
          ++ ['\x7d', '\x7d'], name⟩
      | _ => none
  | _ => none

/-- The pieces of a text behind its first `skipped` characters. -/
def piecesAfter : Nat → List Char → List Piece
  | _, [] => []
  | n + 1, _ :: r => piecesAfter n r
  | 0, c :: r => match placeholder? (c :: r) with
    | some p => .placeholder p :: piecesAfter (p.written.length - 1) r
    | none => .plain c :: piecesAfter 0 r

/-- The pieces of a template. -/
def pieces (s : List Char) : List Piece := piecesAfter 0 s

/-- A piece with its value put in. -/
def fill (vars : Variables) : Piece → List Char
  | .plain c => [c]
  | .placeholder p => match vars.lookupText (String.ofList p.name) with
    | some s => s.toList
    | none => p.written

/-- The names in the placeholders of a template, in order. -/
def names (template : String) : List String :=
  (pieces template.toList).filterMap fun
    | .placeholder p => some (String.ofList p.name)
    | .plain _ => none

end Template

/-- A template with the values of its placeholders put in. -/
def interpolate (vars : Variables) (template : String) : String :=
  String.ofList ((Template.pieces template.toList).flatMap (Template.fill vars))

mutual
/-- A value with every text in it interpolated. Keys, and values that are not texts, stay. -/
def interpolateValue (vars : Variables) : Value → Value
  | .text s => .text (interpolate vars s)
  | .list items => .list (interpolateItems vars items)
  | .object fields => .object (interpolateFields vars fields)
  | v => v

/-- The items of a list, interpolated. -/
def interpolateItems (vars : Variables) : List Value → List Value
  | [] => []
  | v :: rest => interpolateValue vars v :: interpolateItems vars rest

/-- The fields of an object, interpolated. -/
def interpolateFields (vars : Variables) : List (String × Value) → List (String × Value)
  | [] => []
  | (key, v) :: rest => (key, interpolateValue vars v) :: interpolateFields vars rest
end

end Dialogue
