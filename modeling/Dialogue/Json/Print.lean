/-
Writing documents as JSON text: compact (no blanks at all) and pretty (two spaces a level). Quotes,
backslashes and control characters are escaped and nothing else. A number that is not finite is
written as `null`.

The text of a value is the compact text of its document; a value's own text (`Value.display`) is
the same except that a text stands for itself, without quotes.
-/
import Dialogue.Document.Basic
import Dialogue.Number.Shortest

namespace Dialogue

namespace Json

/-! ## Numbers -/

/-- Doubles are positional from `1e-5` to below `1e16`. -/
def doubleStyle : DecimalStyle := ⟨some (-5, 15), true, true, .even⟩

/-- Singles are positional from `1e-6` to below `1e13`. -/
def singleStyle : DecimalStyle := ⟨some (-6, 12), true, true, .even⟩

/-- The text of a number. -/
def number : Number → String
  | .integer n => toString n
  | .double (.finite s m e) => doubleStyle.finite .double s m e
  | .single (.finite s m e) => singleStyle.finite .single s m e
  | .double _ => "null"
  | .single _ => "null"

/-! ## Texts -/

/-- A control character as `u` and four hexadecimal digits. -/
def controlEscape (c : Char) : List Char :=
  let ds := Nat.toDigits 16 c.toNat
  'u' :: List.replicate (4 - ds.length) '0' ++ ds

/-- One character inside quotes. -/
def escapedChar (c : Char) : List Char :=
  if c = '"' then ['\\', '"']
  else if c = '\\' then ['\\', '\\']
  else if c = '\n' then ['\\', 'n']
  else if c = '\r' then ['\\', 'r']
  else if c = '\t' then ['\\', 't']
  else if c.toNat = 8 then ['\\', 'b']
  else if c.toNat = 12 then ['\\', 'f']
  else if c.toNat < 0x20 then '\\' :: controlEscape c
  else [c]

/-- A text in quotes. -/
def text (s : String) : String :=
  String.ofList ('"' :: s.toList.flatMap escapedChar ++ ['"'])

/-- The text of the content of a leaf. -/
def scalar : Scalar → String
  | .null => "null"
  | .bool b => if b then "true" else "false"
  | .number n => number n
  | .minusZero => number (.integer 0)
  | .text s => text s
  | .unreadable => "null"

/-! ## Compact text -/

mutual
/-- The compact text of a document. -/
def compact : Document → String
  | .leaf l => scalar l.value
  | .list _ ds => "[" ++ compactItems ds ++ "]"
  | .table _ entries => "\x7b" ++ compactEntries entries ++ "\x7d"
  | .labelled _ d => compact d
  | .shared d => compact d

/-- The compact texts of a list of documents, commas between them. -/
def compactItems : List Document → String
  | [] => ""
  | [d] => compact d
  | d :: rest => compact d ++ "," ++ compactItems rest

/-- The compact texts of the entries of a table, commas between them. -/
def compactEntries : List (Document × Document) → String
  | [] => ""
  | [(k, d)] => compact k ++ ":" ++ compact d
  | (k, d) :: rest => compact k ++ ":" ++ compact d ++ "," ++ compactEntries rest
end

/-! ## Pretty text -/

/-- A line break and the indentation of a level. -/
def newline (level : Nat) : String := "\n" ++ String.ofList (List.replicate (2 * level) ' ')

mutual
/-- The pretty text of a document at a level. -/
def pretty (level : Nat) : Document → String
  | .leaf l => scalar l.value
  | .list _ [] => "[]"
  | .list _ ds => "[" ++ prettyItems (level + 1) ds ++ newline level ++ "]"
  | .table _ [] => "\x7b\x7d"
  | .table _ entries => "\x7b" ++ prettyEntries (level + 1) entries ++ newline level ++ "\x7d"
  | .labelled _ d => pretty level d
  | .shared d => pretty level d

/-- The pretty texts of a list of documents, each on a line of its own. -/
def prettyItems (level : Nat) : List Document → String
  | [] => ""
  | [d] => newline level ++ pretty level d
  | d :: rest => newline level ++ pretty level d ++ "," ++ prettyItems level rest

/-- The pretty texts of the entries of a table, each on a line of its own. -/
def prettyEntries (level : Nat) : List (Document × Document) → String
  | [] => ""
  | [(k, d)] => newline level ++ pretty level k ++ ": " ++ pretty level d
  | (k, d) :: rest =>
    newline level ++ pretty level k ++ ": " ++ pretty level d ++ "," ++ prettyEntries level rest
end

end Json

/-- The compact text of a value. -/
def Value.compact (v : Value) : String := Json.compact (Document.ofValue v)

/-- The text of a value in templates and comparisons: a text as it is, anything else in compact
form. -/
def Value.display : Value → String
  | .text s => s
  | v => v.compact

end Dialogue
