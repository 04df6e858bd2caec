/-
Layout: from a YAML text to its tokens. Indentation opens and closes blocks, and a colon makes a key
of what stands before it on the line.

A place where a key may start is remembered until it is clear whether a colon follows; then the
marks of the key go in front of what was read since. Such a key ends on its line and takes at most
1024 bytes. Where only a key can stand, its colon must follow.
-/
import Dialogue.Yaml.Token

namespace Dialogue

namespace Yaml

/-- A place where a key may have started: the number of tokens before it, and its position. -/
structure KeySpot where
  required : Bool
  before : Nat
  line : Nat
  column : Nat
  offset : Nat
deriving DecidableEq, Repr

/-- A text being cut into tokens (the latest first): the columns of the open blocks and the key
spots of the brackets around, innermost first. -/
structure Layout where
  cursor : Cursor
  tokens : List Token
  indents : List Nat
  spot : Option KeySpot
  outer : List (Option KeySpot)
  keyAllowed : Bool

namespace Layout

/-- A text of which nothing was read. -/
def start (text : List Char) : Layout := ⟨.start text, [], [], none, [], true⟩

/-- Whether the position is between brackets. -/
def inFlow (l : Layout) : Bool := !l.outer.isEmpty

/-- The column of the innermost block. -/
def indent? (l : Layout) : Option Nat := l.indents.head?

/-- Whether a column is further to the right than the innermost block. -/
def isDeeper (l : Layout) (column : Nat) : Bool := l.indent?.all (· < column)

/-- The layout with a token added and the position moved. -/
def push (l : Layout) (t : Token) (next : Cursor) : Layout :=
  { l with tokens := t :: l.tokens, cursor := next }

/-- The layout with a token put in behind the first `before` tokens. -/
def insertAt (l : Layout) (before : Nat) (t : Token) : Layout :=
  let later := l.tokens.length - before
  { l with tokens := l.tokens.take later ++ t :: l.tokens.drop later }

/-! ## Blocks -/

/-- Opens a block at a column if that is further to the right. -/
def openBlock (l : Layout) (column before : Nat) (t : Token) : Layout :=
  if l.inFlow || !l.isDeeper column then l
  else { l.insertAt before t with indents := column :: l.indents }

/-- Closes the blocks that satisfy a test on their column, from inside. -/
def closeBlocks (l : Layout) (p : Nat → Bool) : Layout :=
  if l.inFlow then l
  else
    { l with
      tokens := (l.indents.takeWhile p).map (fun _ => Token.blockEnd) ++ l.tokens
      indents := l.indents.dropWhile p }

/-! ## Keys -/

/-- Forgets the key spot; one that needed its colon is an error. -/
def dropSpot? (l : Layout) : Option Layout :=
  if l.spot.any (·.required) then none else some { l with spot := none }

/-- Remembers that a key may start here. -/
def saveSpot? (l : Layout) : Option Layout :=
  if l.keyAllowed then
    l.dropSpot?.map fun l =>
      let c := l.cursor
      let required := !l.inFlow && l.indent? == some c.column
      { l with spot := some ⟨required, l.tokens.length, c.line, c.column, c.offset⟩ }
  else some l

/-- How many bytes a key may take in front of its colon. -/
def maxKeyBytes : Nat := 1024

/-- A key spot as seen from a later position: too far away, it is forgotten. -/
def freshSpot? (c : Cursor) (spot : Option KeySpot) : Option (Option KeySpot) :=
  match spot with
  | none => some none
  | some s =>
    if s.line < c.line ∨ s.offset + maxKeyBytes < c.offset then
      if s.required then none else some none
    else some (some s)

/-- Forgets the key spots that are too far away. -/
def freshen? (l : Layout) : Option Layout := do
  let spot ← freshSpot? l.cursor l.spot
  let outer ← l.outer.mapM (freshSpot? l.cursor)
  return { l with spot, outer }

/-! ## Between tokens -/

/-- The byte order mark. -/
def isByteOrderMark (c : Char) : Bool := c.toNat == 0xFEFF

/-- The position of the next token, and whether a key may start there. Blanks, breaks and comments
are skipped, and a byte order mark at the start of a line; a tab is a blank only where no key may
start. -/
def nextToken (inFlow : Bool) (comment : Bool) :
    List Char → Nat → Nat → Nat → Bool → Cursor × Bool
  | [], line, column, offset, allowed => (⟨[], line, column, offset⟩, allowed)
  | c :: r, line, column, offset, allowed =>
    if isBreak c then nextToken inFlow false r (line + 1) 0 0 (allowed || !inFlow)
    else if comment || c == ' ' || (c == '\t' && (inFlow || !allowed))
        || (column == 0 && isByteOrderMark c) then
      nextToken inFlow comment r line (column + 1) (offset + c.utf8Size) allowed
    else if c = '#' then nextToken inFlow true r line (column + 1) (offset + c.utf8Size) allowed
    else (⟨c :: r, line, column, offset⟩, allowed)

/-- Moves to the next token. -/
def advance (l : Layout) : Layout :=
  let c := l.cursor
  let (cursor, keyAllowed) := nextToken l.inFlow false c.rest c.line c.column c.offset l.keyAllowed
  { l with cursor, keyAllowed }

/-! ## One token -/

/-- Adds a mark of one character. -/
def mark (l : Layout) (t : Token) (keyAllowed : Bool) : Layout :=
  { l.push t (l.cursor.skip 1) with keyAllowed }

/-- A directive. -/
def readDirective? (l : Layout) : Option Layout := do
  let l ← (l.closeBlocks fun _ => true).dropSpot?
  let (d, next) ← directive? l.cursor
  return { l.push (.directive d) next with keyAllowed := false }

/-- The start or the end of a document. -/
def readBoundary? (l : Layout) (t : Token) : Option Layout := do
  let l ← (l.closeBlocks fun _ => true).dropSpot?
  return { l.push t (l.cursor.skip 3) with keyAllowed := false }

/-- An opening bracket. -/
def readOpen? (l : Layout) (t : Token) : Option Layout := do
  let l ← l.saveSpot?
  return { l.mark t true with spot := none, outer := l.spot :: l.outer }

/-- A closing bracket. -/
def readClose? (l : Layout) (t : Token) : Option Layout := do
  let l ← l.dropSpot?
  match l.outer with
  | [] => return l.mark t false
  | spot :: outer => return { l.mark t false with spot, outer }

/-- A comma. -/
def readComma? (l : Layout) : Option Layout := do
  let l ← l.dropSpot?
  return l.mark .comma true

/-- The dash of a list in block form. -/
def readDash? (l : Layout) : Option Layout := do
  if !l.inFlow && !l.keyAllowed then none
  let l ← (l.openBlock l.cursor.column l.tokens.length .blockList).dropSpot?
  return l.mark .dash true

/-- The mark of a key. -/
def readKey? (l : Layout) : Option Layout := do
  if !l.inFlow && !l.keyAllowed then none
  let l ← (l.openBlock l.cursor.column l.tokens.length .blockTable).dropSpot?
  return l.mark .key !l.inFlow

/-- The colon of a value. -/
def readValue? (l : Layout) : Option Layout :=
  match l.spot with
  | some s =>
    let l := (l.insertAt s.before .key).openBlock s.column s.before .blockTable
    some { l.mark .value false with spot := none }
  | none =>
    if !l.inFlow && !l.keyAllowed then none
    else
      some ((l.openBlock l.cursor.column l.tokens.length .blockTable).mark .value !l.inFlow)

/-- An anchor or alias. -/
def readAnchor? (l : Layout) (make : String → Token) : Option Layout := do
  let l ← l.saveSpot?
  let (name, next) ← anchorName? l.cursor
  return { l.push (make name) next with keyAllowed := false }

/-- A tag. -/
def readTag? (l : Layout) : Option Layout := do
  let l ← l.saveSpot?
  let (t, next) ← tag? l.inFlow l.cursor
  return { l.push t next with keyAllowed := false }

/-- A block scalar. -/
def readBlock? (l : Layout) (literal : Bool) : Option Layout := do
  let l ← l.dropSpot?
  let found ← block? literal l.indent? l.cursor
  let style := if literal then LeafStyle.literal else .other
  return { l.push (.scalar (String.ofList found.text) style) found.next with keyAllowed := true }

/-- A quoted scalar. -/
def readQuoted? (l : Layout) (quote : Char) : Option Layout := do
  let l ← l.saveSpot?
  let found ← quoted? quote l.cursor
  return { l.push (.scalar (String.ofList found.text) .other) found.next with keyAllowed := false }

/-- A plain scalar. -/
def readPlain? (l : Layout) : Option Layout := do
  let l ← l.saveSpot?
  let least := match l.indent? with
    | some i => i + 1
    | none => 0
  let found ← plain? l.inFlow least l.cursor
  return { l.push (.scalar (String.ofList found.text) .plain) found.next with
    keyAllowed := found.crossed }

/-- The characters with which no plain scalar starts. -/
def indicators : List Char :=
  ['-', '?', ':', ',', '[', ']', '\x7b', '\x7d', '#', '&', '*', '!', '|', '>', '\x27', '"', '%',
    '@', '\x60']

/-- Whether a plain scalar starts with a character, given what follows it. -/
def startsPlain (inFlow : Bool) (c : Char) (r : List Char) : Bool :=
  !(isBlank c || isBreak c || indicators.contains c)
    || (c == '-' && !r.head?.any isBlank)
    || (!inFlow && (c == '?' || c == ':') && !endsWord r)

/-- The token that starts with a character. -/
def readAt? (l : Layout) (c : Char) (r : List Char) : Option Layout :=
  let alone := l.inFlow || endsWord r
  if l.cursor.column = 0 ∧ c = '%' then l.readDirective?
  else if l.cursor.atMarks '-' then l.readBoundary? .documentStart
  else if l.cursor.atMarks '.' then l.readBoundary? .documentEnd
  else if c = '[' then l.readOpen? .openList
  else if c = '\x7b' then l.readOpen? .openTable
  else if c = ']' then l.readClose? .closeList
  else if c = '\x7d' then l.readClose? .closeTable
  else if c = ',' then l.readComma?
  else if c = '-' ∧ endsWord r then l.readDash?
  else if c = '?' ∧ alone then l.readKey?
  else if c = ':' ∧ alone then l.readValue?
  else if c = '*' then l.readAnchor? .alias
  else if c = '&' then l.readAnchor? .anchor
  else if c = '!' then l.readTag?
  else if c = '|' ∧ !l.inFlow then l.readBlock? true
  else if c = '>' ∧ !l.inFlow then l.readBlock? false
  else if c = '\x27' ∨ c = '"' then l.readQuoted? c
  else if startsPlain l.inFlow c r then l.readPlain?
  else none

/-- The end of the text closes all blocks. -/
def finish? (l : Layout) : Option (List Token) :=
  (l.closeBlocks fun _ => true).dropSpot?.map fun l => l.tokens.reverse

/-- Reads tokens until the text ends. -/
def run? : Nat → Layout → Option (List Token)
  | 0, _ => none
  | fuel + 1, l => do
    let l ← l.advance.freshen?
    let l := l.closeBlocks (l.cursor.column < ·)
    match l.cursor.rest with
    | [] => l.finish?
    | c :: r =>
      let l ← l.readAt? c r
      run? fuel l

end Layout

/-- The tokens of a text. -/
def tokens? (text : List Char) : Option (List Token) :=
  if text.all isAllowed then
    let text := lines text
    Layout.run? (text.length + 1) (.start text)
  else none

end Yaml

end Dialogue
