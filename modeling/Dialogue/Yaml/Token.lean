/-
Tokens of a YAML text, and readers for those that are neither scalars nor single marks: anchors,
tags and directives. A tag is a run of bytes, which need not be the bytes of a text.
-/
import Dialogue.Yaml.Scalar

namespace Dialogue

namespace Yaml

/-- An instruction in front of a document. -/
inductive Directive
  | version (major minor : Nat)
  | handle (name : String) (replacement : List UInt8)
deriving DecidableEq, Repr

/-- A token. The first four kinds of collection marks come from indentation, the next four from
brackets. -/
inductive Token
  | directive (d : Directive)
  | documentStart
  | documentEnd
  | blockList
  | blockTable
  | blockEnd
  | openList
  | closeList
  | openTable
  | closeTable
  | dash
  | comma
  | key
  | value
  | alias (name : String)
  | anchor (name : String)
  | tag (handle : String) (suffix : List UInt8)
  | scalar (text : String) (style : LeafStyle)
deriving DecidableEq, Repr

/-! ## Anchors -/

/-- Whether the name of an anchor may end in front of a text. -/
def endsAnchor : List Char → Bool
  | c :: r => endsWord (c :: r) || ['?', ':', ',', ']', '\x7d', '%', '@', '\x60'].contains c
  | [] => true

/-- The name behind the mark of an anchor or alias. -/
def anchorName? (c : Cursor) : Option (String × Cursor) :=
  let (name, next) := (c.skip 1).span isNameChar
  if name.isEmpty || !endsAnchor next.rest then none else some (String.ofList name, next)

/-! ## Tags -/

/-- The bytes of a text that is ASCII. -/
def asciiBytes (s : List Char) : List UInt8 := s.map fun c => c.val.toUInt8

/-- The bytes in front of the first zero byte, which ends a tag. -/
def upToZero (bytes : List UInt8) : List UInt8 := bytes.takeWhile (· != 0)

/-- The characters of a tag besides those of names. -/
def tagChars : List Char :=
  [';', '/', '?', ':', '@', '&', '=', '+', '$', '.', '!', '~', '*', '\x27', '(', ')']

/-- Whether a character may stand in a tag as it is. Between angle brackets, and in a directive,
commas and square brackets may stand too. -/
def isTagChar (verbatim : Bool) (c : Char) : Bool :=
  isNameChar c || tagChars.contains c || (verbatim && (c == ',' || c == '[' || c == ']'))

/-- The byte that an escape `%xx` writes. -/
def escapedByte? : List Char → Option (UInt8 × List Char)
  | '%' :: a :: b :: r => do
    let high ← Word.digit? 16 a
    let low ← Word.digit? 16 b
    return (UInt8.ofNat (16 * high + low), r)
  | _ => none

/-- The number of bytes that follow the first byte of a character. -/
def bytesAfter? (first : UInt8) : Option Nat :=
  if first < 0x80 then some 0
  else if first < 0xC0 then none
  else if first < 0xE0 then some 1
  else if first < 0xF0 then some 2
  else if first < 0xF8 then some 3
  else none

/-- The bytes that continue a character, each as an escape. -/
def continuation? : Nat → List Char → Option (List UInt8 × List Char)
  | 0, s => some ([], s)
  | n + 1, s => do
    let (byte, s) ← escapedByte? s
    if 0x80 ≤ byte ∧ byte < 0xC0 then
      let (bytes, s) ← continuation? n s
      return (byte :: bytes, s)
    else none

/-- The bytes of the character that a run of byte escapes starts with. That they are as many as the
first one demands is all that is checked. -/
def escapedBytes? (s : List Char) : Option (List UInt8 × List Char) := do
  let (first, s) ← escapedByte? s
  let (bytes, s) ← continuation? (← bytesAfter? first) s
  return (first :: bytes, s)

/-- The bytes of a tag, and what follows them. -/
def tagRun? (verbatim : Bool) : Nat → List Char → Option (List UInt8 × List Char)
  | 0, _ => none
  | _, [] => some ([], [])
  | fuel + 1, c :: r =>
    if c = '%' then do
      let (bytes, rest) ← escapedBytes? (c :: r)
      let (more, rest) ← tagRun? verbatim fuel rest
      return (bytes ++ more, rest)
    else if isTagChar verbatim c then
      (tagRun? verbatim fuel r).map fun p => (asciiBytes [c] ++ p.1, p.2)
    else some ([], c :: r)

/-- The bytes of a tag ahead, and the position behind them. -/
def tagBytes? (verbatim : Bool) (c : Cursor) : Option (List UInt8 × Cursor) :=
  (tagRun? verbatim (c.rest.length + 1) c.rest).map fun p =>
    (p.1, c.skip (c.rest.length - p.2.length))

/-- The handle ahead: an exclamation mark and, if there are any, a name and a second mark. -/
def handle (c : Cursor) : List Char × Cursor :=
  let (name, next) := (c.skip 1).span isNameChar
  match next.rest with
  | '!' :: _ => ('!' :: name ++ ['!'], next.skip 1)
  | _ => ('!' :: name, next)

/-- A tag between angle brackets. -/
def verbatimTag? (c : Cursor) : Option (Token × Cursor) := do
  let (suffix, next) ← tagBytes? true (c.skip 2)
  if suffix.isEmpty || next.rest.head? != some '>' then none
  else return (.tag "" (upToZero suffix), next.skip 1)

/-- A tag with a handle. What starts like a handle without being one belongs to the suffix, and the
mark alone is a tag too. -/
def shortTag? (c : Cursor) : Option (Token × Cursor) := do
  let (h, next) := handle c
  let (suffix, next) ← tagBytes? false next
  if 1 < h.length && h.getLast? == some '!' then
    if suffix.isEmpty then none
    else return (.tag (String.ofList h) (upToZero suffix), next)
  else
    let suffix := upToZero (asciiBytes (h.drop 1) ++ suffix)
    if suffix.isEmpty then return (.tag "" (asciiBytes ['!']), next)
    else return (.tag "!" suffix, next)

/-- The tag ahead. -/
def tag? (inFlow : Bool) (c : Cursor) : Option (Token × Cursor) := do
  let (token, next) ←
    if (c.rest.drop 1).head? = some '<' then verbatimTag? c else shortTag? c
  if next.atEnd || (inFlow && next.rest.head? == some ',') then return (token, next) else none

/-! ## Directives -/

/-- A number of at most nine digits. -/
def number? (c : Cursor) : Option (Nat × Cursor) :=
  let (ds, next) := c.span Char.isDigit
  if ds.isEmpty || 9 < ds.length then none else (Word.digits? 10 maxInteger ds).map (·, next)

/-- The version that a directive gives. -/
def versionDirective? (c : Cursor) : Option (Directive × Cursor) := do
  let (major, c) ← number? c.skipBlanks
  if c.rest.head? != some '.' then none
  let (minor, c) ← number? (c.skip 1)
  return (.version major minor, c)

/-- The handle that a directive gives, and what it stands for. -/
def handleDirective? (c : Cursor) : Option (Directive × Cursor) := do
  let c := c.skipBlanks
  if c.rest.head? != some '!' then none
  let (h, c) := handle c
  if 1 < h.length && h.getLast? != some '!' then none
  if c.rest.isEmpty || !c.rest.head?.any isBlank then none
  let (replacement, c) ← tagBytes? true c.skipBlanks
  if replacement.isEmpty || !c.atEnd then none
  return (.handle (String.ofList h) (upToZero replacement), c)

/-- The directive ahead, which takes the whole line. -/
def directive? (c : Cursor) : Option (Directive × Cursor) := do
  let (name, c) := (c.skip 1).span isNameChar
  if !c.atEnd then none
  let (d, c) ←
    if name = ['Y', 'A', 'M', 'L'] then versionDirective? c
    else if name = ['T', 'A', 'G'] then handleDirective? c
    else none
  let c ← restOfLine? c
  return (d, c.skipBreak)

end Yaml

end Dialogue
