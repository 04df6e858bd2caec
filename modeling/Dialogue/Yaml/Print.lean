/-
Writing documents as YAML text, in block form: a list stands below its key with its dashes at the
key's column, and everything else two columns further in. Empty lists and tables are in brackets.

A text is written as a plain word where that is read back as the same text, in single quotes where
that is possible, and in double quotes otherwise; a text of several lines is a block of literal
lines if its lines allow it. A key that is long or has several lines gets a mark of its own.
-/
import Dialogue.Document.Basic
import Dialogue.Number.Shortest
import Dialogue.Yaml.Cursor

namespace Dialogue

namespace Yaml

/-! ## Numbers -/

/-- Doubles are positional from `1e-5` to below `1e16`. -/
def doubleStyle : DecimalStyle := ⟨some (-5, 15), true, false, .even⟩

/-- Singles are positional from `1e-6` to below `1e13`. -/
def singleStyle : DecimalStyle := ⟨some (-6, 12), true, false, .even⟩

/-- The text of a binary number. -/
def floatText (style : DecimalStyle) (f : FloatFormat) : Binary → String
  | .finite s m e => style.finite f s m e
  | .infinite negative => if negative then "-.inf" else ".inf"
  | .nan => ".nan"

/-- The text of a number. -/
def numberText : Number → String
  | .integer n => toString n
  | .double x => floatText doubleStyle .double x
  | .single x => floatText singleStyle .single x

/-! ## What a text allows -/

/-- Whether a character may stand outside double quotes: tabs may not. -/
def isPrintable (c : Char) : Bool :=
  let n := c.toNat
  n == 0xA || (0x20 ≤ n && n ≤ 0x7E) || (0xA0 ≤ n && n ≤ 0xD7FF)
    || (0xE000 ≤ n && n ≤ 0xFFFD && n != 0xFEFF) || 0x10000 ≤ n

/-- The characters that mean something else at the start of a word. -/
def startMarks : List Char :=
  ['#', ',', '[', ']', '\x7b', '\x7d', '&', '*', '!', '|', '>', '\x27', '"', '%', '@', '\x60']

/-- Whether the start of a text is taken for something else than a word. -/
def startsOtherwise : List Char → Bool
  | c :: r =>
    startMarks.contains c || ((c == '?' || c == ':' || c == '-') && endsWord r)
      || [['-', '-', '-'], ['.', '.', '.']].contains ((c :: r).take 3)
  | [] => false

/-- Whether a word ends early: at a colon in front of a blank, or a number sign behind one. -/
def endsEarly : List Char → Bool
  | c :: d :: r =>
    (d == ':' && endsWord r) || (d == '#' && endsWord [c]) || endsEarly (d :: r)
  | _ => false

/-- Whether a character of one kind is followed by one of another. -/
def follows (p q : Char → Bool) : List Char → Bool
  | c :: d :: r => (p c && q d) || follows p q (d :: r)
  | _ => false

/-- The space. -/
def isSpace (c : Char) : Bool := c == ' '

/-- Whether spaces or breaks stand at an end of a text. -/
def hasLooseEnds (s : List Char) : Bool :=
  let loose (c : Char) := isSpace c || isBreak c
  s.head?.any loose || s.getLast?.any loose

/-- Whether a text needs double quotes when it is not a block. -/
def needsEscapes (s : List Char) : Bool :=
  !s.all isPrintable || follows isSpace isBreak s || follows isBreak isSpace s

/-- Whether a text can be a plain word. -/
def allowsPlain (s : List Char) : Bool :=
  !needsEscapes s && !hasLooseEnds s && !s.any isBreak && !startsOtherwise s && !endsEarly s

/-- Whether a text can be a block of lines. -/
def allowsBlock (s : List Char) : Bool :=
  s.all isPrintable && !follows isSpace isBreak s && s.getLast? != some ' '

/-- Whether a plain word is read back as text. -/
def readsAsText (s : String) : Bool :=
  match Word.resolve s with
  | .text _ => !Word.hasLeadingZero s.toList
  | _ => false

/-! ## Texts -/

/-- Escapes of one letter. -/
def letterEscapes : List (Nat × Char) :=
  [(0, '0'), (7, 'a'), (8, 'b'), (9, 't'), (0xA, 'n'), (0xB, 'v'), (0xC, 'f'), (0xD, 'r'),
    (0x1B, 'e'), (0x22, '"'), (0x5C, '\\'), (0x85, 'N'), (0x2028, 'L'), (0x2029, 'P')]

/-- A code in hexadecimal digits of a given number, in capitals. -/
def hexCode (letter : Char) (width : Nat) (n : Nat) : List Char :=
  let ds := (Nat.toDigits 16 n).map Char.toUpper
  letter :: List.replicate (width - ds.length) '0' ++ ds

/-- The escape of a character behind its backslash. -/
def escapeOf (c : Char) : List Char :=
  let n := c.toNat
  match letterEscapes.find? fun e => e.1 == n with
  | some e => [e.2]
  | none =>
    if n ≤ 0xFF then hexCode 'x' 2 n
    else if n ≤ 0xFFFF then hexCode 'u' 4 n
    else hexCode 'U' 8 n

/-- A text in double quotes. -/
def doubleQuoted (s : List Char) : List Char :=
  let one (c : Char) :=
    if !isPrintable c || isBreak c || c == '"' || c == '\\' then '\\' :: escapeOf c else [c]
  '"' :: s.flatMap one ++ ['"']

/-- Spaces. -/
def spaces (n : Nat) : List Char := List.replicate n ' '

/-- Lines with an indentation in front of every line that is not empty. -/
def indentLines (indent : Nat) : Bool → List Char → List Char
  | _, [] => []
  | atStart, c :: r =>
    if isBreak c then c :: indentLines indent true r
    else (if atStart then spaces indent else []) ++ c :: indentLines indent false r

/-- A text in single quotes; a quote in it is written twice. Every line behind a break is indented,
also one that has only the closing quote. -/
def singleQuoted (indent : Nat) (s : List Char) : List Char :=
  let doubled := s.flatMap fun c => if c = '\x27' then [c, c] else [c]
  let closing := if s.getLast?.any isBreak then spaces indent else []
  '\x27' :: indentLines indent false doubled ++ closing ++ ['\x27']

/-- The sign for the breaks at the end of a block. -/
def chompSign (s : List Char) : List Char :=
  match s.reverse with
  | a :: b :: _ => if !isBreak a then ['-'] else if isBreak b then ['+'] else []
  | [a] => if isBreak a then ['+'] else ['-']
  | [] => ['-']

/-- A text as a block of lines, with a break at its end. -/
def literal (indent : Nat) (s : List Char) : List Char :=
  let hint := if s.head?.any fun c => isSpace c || isBreak c then ['2'] else []
  '|' :: hint ++ chompSign s ++ '\n' :: indentLines indent true s
    ++ if s.getLast?.any isBreak then [] else ['\n']

/-- A text and a break, written at a place whose further lines are indented as given. -/
def textLines (indent : Nat) (text : String) : List Char :=
  let s := text.toList
  if s.contains '\n' then
    if allowsBlock s then literal indent s else doubleQuoted s ++ ['\n']
  else if readsAsText text && allowsPlain s then s ++ ['\n']
  else if needsEscapes s then doubleQuoted s ++ ['\n']
  else singleQuoted indent s ++ ['\n']

/-- The text of a leaf, and a break. -/
def scalarLines (indent : Nat) : Scalar → List Char
  | .null => "null\n".toList
  | .bool b => (if b then "true\n" else "false\n").toList
  | .number n => (numberText n).toList ++ ['\n']
  | .minusZero => (numberText (.integer 0)).toList ++ ['\n']
  | .text s => textLines indent s
  | .unreadable => "null\n".toList

/-! ## Blocks -/

/-- Whether a character breaks lines in any text, one whose breaks have been made one or not. -/
def isAnyBreak (c : Char) : Bool := isBreak c || c == '\r' || c.toNat == 0x85

/-- Whether a key fits in front of its colon. -/
def isSimpleKey (key : Document) : Bool :=
  match key with
  | .leaf l => match l.value with
    | .text s => s.utf8ByteSize ≤ 128 && !s.toList.any isAnyBreak
    | _ => true
  | _ => false

/-- Whether a document starts on the line below its key. -/
def opensBelow (d : Document) : Bool :=
  match d.unlabelled with
  | .list _ ds => !ds.isEmpty
  | .table _ entries => !entries.isEmpty
  | _ => false

/-- The column of a document in an entry whose key stands at column `indent`. -/
def valueColumn (indent : Nat) (key d : Document) : Nat :=
  match d.unlabelled with
  | .list _ ds => if isSimpleKey key && !ds.isEmpty then indent else indent + 2
  | _ => indent + 2

/-- An entry, from the lines of its key and of its document. -/
def entryLines (indent : Nat) (key d : Document) (keyLines lines : List Char) : List Char :=
  if !isSimpleKey key then '?' :: ' ' :: keyLines ++ spaces indent ++ ':' :: ' ' :: lines
  else if opensBelow d then
    keyLines.dropLast ++ ':' :: '\n' :: spaces (valueColumn indent key d) ++ lines
  else keyLines.dropLast ++ ':' :: ' ' :: lines

mutual
/-- The lines of a document whose first line starts at column `indent`, without the indentation of
the first line. -/
def block (indent : Nat) : Document → List Char
  | .leaf l => scalarLines indent l.value
  | .list _ ds => if ds.isEmpty then ['[', ']', '\n'] else blockItems indent ds
  | .table _ entries =>
    if entries.isEmpty then ['\x7b', '\x7d', '\n'] else blockEntries indent entries
  | .labelled _ d => block indent d
  | .shared d => block indent d

/-- The lines of the items of a list. -/
def blockItems (indent : Nat) : List Document → List Char
  | [] => []
  | d :: rest =>
    '-' :: ' ' :: block (indent + 2) d
      ++ if rest.isEmpty then [] else spaces indent ++ blockItems indent rest

/-- The lines of the entries of a table. -/
def blockEntries (indent : Nat) : List (Document × Document) → List Char
  | [] => []
  | (k, d) :: rest =>
    entryLines indent k d (block (indent + 2) k) (block (valueColumn indent k d) d)
      ++ if rest.isEmpty then [] else spaces indent ++ blockEntries indent rest
end

/-- The YAML text of a document. -/
def render (d : Document) : String := String.ofList (block 0 d)

end Yaml

end Dialogue
