/-
Positions in a YAML text. A cursor holds the characters that are still ahead, the line and the
column it stands on, and how many bytes of the line are behind it; layout depends on columns, and
only the length of keys is counted in bytes.

The spellings of a line break are made one before anything is read (`lines`), except the separators
U+2028 and U+2029, which are breaks that stay as they are.
-/
import Dialogue.Text.Ranges

namespace Dialogue

namespace Yaml

/-! ## Characters -/

/-- Spaces and tabs. -/
def isBlank (c : Char) : Bool := c == ' ' || c == '\t'

/-- Line breaks, in a text whose breaks have been made one. -/
def isBreak (c : Char) : Bool := c == '\n' || c.toNat == 0x2028 || c.toNat == 0x2029

/-- Characters of which names of anchors and handles of tags consist. -/
def isNameChar (c : Char) : Bool := c.isAlphanum || c == '_' || c == '-'

/-- The characters that a text may consist of, as ranges. -/
def allowedRanges : List (Nat × Nat) :=
  [(0x9, 0xA), (0xD, 0xD), (0x20, 0x7E), (0x85, 0x85), (0xA0, 0xD7FF), (0xE000, 0xFFFD),
    (0x10000, 0x10FFFF)]

/-- Whether a character may stand in a text. -/
def isAllowed (c : Char) : Bool := allowedRanges.any fun r => r.1 ≤ c.toNat && c.toNat ≤ r.2

/-- The number of bytes that characters take. -/
def byteCount (s : List Char) : Nat := (String.ofList s).utf8ByteSize

/-- A text with one spelling of line breaks. -/
def lines : List Char → List Char
  | '\r' :: '\n' :: r => '\n' :: lines r
  | c :: r => (if c = '\r' ∨ c.toNat = 0x85 then '\n' else c) :: lines r
  | [] => []

/-- Whether a text goes on with a blank or a break, or ends. -/
def endsWord : List Char → Bool
  | [] => true
  | c :: _ => isBlank c || isBreak c

/-! ## Cursors -/

/-- A position in a text; the offset is the column counted in bytes. -/
structure Cursor where
  rest : List Char
  line : Nat
  column : Nat
  offset : Nat
deriving DecidableEq, Repr

namespace Cursor

/-- The position in front of a text. -/
def start (text : List Char) : Cursor := ⟨text, 0, 0, 0⟩

/-- The position some characters further on the same line. -/
def skip (c : Cursor) (n : Nat) : Cursor :=
  ⟨c.rest.drop n, c.line, c.column + n, c.offset + byteCount (c.rest.take n)⟩

/-- The characters ahead that satisfy `p`, all on the same line, and the position behind them. -/
def span (c : Cursor) (p : Char → Bool) : List Char × Cursor :=
  let taken := c.rest.takeWhile p
  (taken, c.skip taken.length)

/-- The position behind the blanks ahead. -/
def skipBlanks (c : Cursor) : Cursor := (c.span isBlank).2

/-- The position at the end of the line. -/
def skipLine (c : Cursor) : Cursor := (c.span fun ch => !isBreak ch).2

/-- The position behind the break ahead, if there is one. -/
def skipBreak (c : Cursor) : Cursor :=
  match c.rest with
  | ch :: r => if isBreak ch then ⟨r, c.line + 1, 0, 0⟩ else c
  | [] => c

/-- Whether a word ends here. -/
def atEnd (c : Cursor) : Bool := endsWord c.rest

/-- Whether a line ends here. -/
def atLineEnd (c : Cursor) : Bool :=
  match c.rest with
  | ch :: _ => isBreak ch
  | [] => true

/-- Whether three equal marks that delimit documents stand alone at the start of the line. -/
def atMarks (c : Cursor) (mark : Char) : Bool :=
  c.column == 0 && c.rest.take 3 == [mark, mark, mark] && endsWord (c.rest.drop 3)

/-- Whether a document starts or ends here. -/
def atBoundary (c : Cursor) : Bool := c.atMarks '-' || c.atMarks '.'

end Cursor

/-! ## Gaps between words -/

/-- The breaks in the lines ahead up to the next word, and the position of the word. Only blanks
stand before it on its line, each of them one byte. A tab in front of column `indent` is refused. -/
def breaksAhead (indent : Nat) : List Char → Nat → Nat → Option (List Char × Cursor)
  | [], line, column => some ([], ⟨[], line, column, column⟩)
  | c :: r, line, column =>
    if isBreak c then (breaksAhead indent r (line + 1) 0).map fun p => (c :: p.1, p.2)
    else if c = '\t' ∧ column < indent then none
    else if isBlank c then breaksAhead indent r line (column + 1)
    else some ([], ⟨c :: r, line, column, column⟩)

/-- What stands for a break and the breaks after it: a single break is a space. -/
def folded (first : Char) (others : List Char) : List Char :=
  if first = '\n' then (if others.isEmpty then [' '] else others) else first :: others

/-- The blanks and breaks between two words. -/
structure Gap where
  text : List Char
  crossed : Bool
  next : Cursor

/-- The gap ahead: blanks stay as they are, unless a break follows. -/
def gap? (indent : Nat) (c : Cursor) : Option Gap :=
  let (blanks, c) := c.span isBlank
  match c.rest with
  | [] => some ⟨blanks, false, c⟩
  | ch :: r =>
    if isBreak ch then
      (breaksAhead indent r (c.line + 1) 0).map fun p => ⟨folded ch p.1, true, p.2⟩
    else some ⟨blanks, false, c⟩

end Yaml

end Dialogue
