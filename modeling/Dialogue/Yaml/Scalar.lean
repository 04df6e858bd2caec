/-
Scalars in a YAML text: plain words, quoted texts and blocks of lines. Each reader starts at the
first character of a scalar and gives its text and the position behind it.
-/
import Dialogue.Document.Word
import Dialogue.Yaml.Cursor

namespace Dialogue

namespace Yaml

/-! ## Plain scalars -/

/-- The characters that end a plain scalar between brackets. -/
def isFlowMark (c : Char) : Bool :=
  c == ',' || c == '[' || c == ']' || c == '\x7b' || c == '\x7d'

/-- The characters of a plain scalar up to the next gap or mark. Between brackets a colon in front
of a mark is refused. -/
def plainRun? (inFlow : Bool) : List Char → Option (List Char)
  | [] => some []
  | ':' :: r =>
    if inFlow ∧ r.head?.any (fun c => isFlowMark c || c == '?') then none
    else if endsWord r then some []
    else (plainRun? inFlow r).map (':' :: ·)
  | c :: r =>
    if isBlank c || isBreak c || (inFlow && isFlowMark c) then some []
    else (plainRun? inFlow r).map (c :: ·)

/-- A scalar that was read: its text, the position behind it, and whether that is on a later
line than its last word. -/
structure Found where
  text : List Char
  next : Cursor
  crossed : Bool

/-- What is found, with a text in front. -/
def Found.after (f : Found) (text : List Char) : Found := { f with text := text ++ f.text }

/-- What is left of a plain scalar, given the gap in front of it. -/
def plainFrom? (inFlow : Bool) (indent : Nat) : Nat → Gap → Option Found
  | 0, _ => none
  | fuel + 1, gap =>
    let c := gap.next
    let done : Found := ⟨[], c, gap.crossed⟩
    if c.atBoundary || c.rest.head? == some '#' then some done
    else match plainRun? inFlow c.rest with
      | none => none
      | some [] => some done
      | some run =>
        let word := gap.text ++ run
        let c := c.skip run.length
        if !c.atEnd || c.rest.isEmpty then some ⟨word, c, false⟩
        else match gap? indent c with
          | none => none
          | some gap =>
            if !inFlow && gap.next.column < indent then some ⟨word, gap.next, gap.crossed⟩
            else (plainFrom? inFlow indent fuel gap).map (·.after word)

/-- A plain scalar. Outside brackets its lines have to reach column `indent`. -/
def plain? (inFlow : Bool) (indent : Nat) (c : Cursor) : Option Found :=
  plainFrom? inFlow indent (c.rest.length + 1) ⟨[], false, c⟩

/-! ## Quoted scalars -/

/-- The character with the code that `count` hexadecimal digits write. -/
def coded? (count : Nat) (s : List Char) : Option Char :=
  let ds := s.take count
  if ds.length < count then none
  else match ds.mapM (Word.digit? 16) with
    | none => none
    | some ns =>
      let code := ns.foldl (fun n d => 16 * n + d) 0
      if code.isValidChar then some (Char.ofNat code) else none

/-- Characters with an escape of one letter. -/
def shortEscapes : List (Char × Nat) :=
  [('0', 0), ('a', 7), ('b', 8), ('t', 9), ('\t', 9), ('n', 0xA), ('v', 0xB), ('f', 0xC),
    ('r', 0xD), ('e', 0x1B), (' ', 0x20), ('"', 0x22), ('/', 0x2F), ('\\', 0x5C), ('N', 0x85),
    ('_', 0xA0), ('L', 0x2028), ('P', 0x2029)]

/-- The digits behind the letter of an escape by code. -/
def codeLength? (c : Char) : Option Nat :=
  if c = 'x' then some 2 else if c = 'u' then some 4 else if c = 'U' then some 8 else none

/-- The character that an escape stands for, and the length of the escape behind its backslash. -/
def escape? : List Char → Option (Char × Nat)
  | [] => none
  | c :: r => match codeLength? c with
    | some n => (coded? n r).map fun ch => (ch, n + 1)
    | none => (shortEscapes.find? fun e => e.1 == c).map fun e => (Char.ofNat e.2, 1)

/-- The characters of a quoted scalar up to the next gap or quote, and how many characters they
take. An escaped break ends them too. -/
def quotedRun? (quote : Char) : Nat → List Char → Option (List Char × Nat)
  | 0, _ => none
  | _, [] => some ([], 0)
  | fuel + 1, c :: r =>
    let add (ch : Char) (n : Nat) (rest : List Char) :=
      (quotedRun? quote fuel rest).map fun p => (ch :: p.1, p.2 + n)
    if isBlank c || isBreak c then some ([], 0)
    else if c = quote then
      if quote = '\x27' ∧ r.head? = some quote then add quote 2 (r.drop 1) else some ([], 0)
    else if c = '\\' ∧ quote = '"' then
      if r.head?.any isBreak then some ([], 0)
      else match escape? r with
        | none => none
        | some (ch, n) => add ch (n + 1) (r.drop n)
    else add c 1 r

/-- What stands between two runs of a quoted scalar: a gap, or an escaped break with the breaks
after it. -/
def quotedGap? (c : Cursor) : Option Gap :=
  match c.rest with
  | '\\' :: _ =>
    let c := (c.skip 1).skipBreak
    (breaksAhead 0 c.rest c.line c.column).map fun p => ⟨p.1, true, p.2⟩
  | _ => gap? 0 c

/-- What is left of a quoted scalar. -/
def quotedFrom? (quote : Char) : Nat → Cursor → Option Found
  | 0, _ => none
  | fuel + 1, c =>
    if c.atBoundary || c.rest.isEmpty then none
    else match quotedRun? quote (c.rest.length + 1) c.rest with
      | none => none
      | some (run, n) =>
        let c := c.skip n
        if c.rest.head? = some quote then some ⟨run, c.skip 1, false⟩
        else match quotedGap? c with
          | none => none
          | some gap => (quotedFrom? quote fuel gap.next).map (·.after (run ++ gap.text))

/-- A quoted scalar; the cursor stands on its first quote. -/
def quoted? (quote : Char) (c : Cursor) : Option Found :=
  quotedFrom? quote (c.rest.length + 1) (c.skip 1)

/-! ## Block scalars -/

/-- Which breaks at the end of a block belong to it. -/
inductive Chomping
  | strip
  | clip
  | keep
deriving DecidableEq, Repr

/-- The chomping that a sign stands for. -/
def Chomping.ofSign? (c : Char) : Option Chomping :=
  if c = '+' then some .keep else if c = '-' then some .strip else none

/-- The head of a block: its chomping, and its indentation if it is given. -/
structure BlockHead where
  chomping : Chomping
  increment : Option Nat

/-- The indentation that a digit gives; zero is refused. -/
def increment? (c : Char) : Option Nat :=
  if c.isDigit && c != '0' then some (c.toNat - '0'.toNat) else none

/-- The head of a block: a sign and a digit in any order, each at most once, and what follows. -/
def blockHead? (s : List Char) : Option (BlockHead × List Char) :=
  match s with
  | [] => some (⟨.clip, none⟩, [])
  | a :: r => match Chomping.ofSign? a with
    | some chomping => match r with
      | b :: r' =>
        if b.isDigit then (increment? b).map fun n => (⟨chomping, some n⟩, r')
        else some (⟨chomping, none⟩, r)
      | [] => some (⟨chomping, none⟩, r)
    | none =>
      if a.isDigit then
        (increment? a).map fun n => match r.head?.bind Chomping.ofSign? with
          | some chomping => (⟨chomping, some n⟩, r.drop 1)
          | none => (⟨.clip, some n⟩, r)
      else some (⟨.clip, none⟩, s)

/-- The position at the end of a line that holds nothing more than a comment. -/
def restOfLine? (c : Cursor) : Option Cursor :=
  let c := c.skipBlanks
  let c := if c.rest.head? = some '#' then c.skipLine else c
  if c.atLineEnd then some c else none

/-- The breaks of the empty lines ahead, the furthest column seen, and the position behind the
indentation of the next line, which are spaces of one byte. The indentation ends at column `indent`,
if that is known. -/
def emptyLines? (indent : Option Nat) :
    List Char → Nat → Nat → Nat → Option (List Char × Nat × Cursor)
  | [], line, column, furthest => some ([], max column furthest, ⟨[], line, column, column⟩)
  | c :: r, line, column, furthest =>
    let within := indent.all (column < ·)
    if within && c == ' ' then emptyLines? indent r line (column + 1) furthest
    else if within && c == '\t' then none
    else if isBreak c then
      (emptyLines? indent r (line + 1) 0 (max column furthest)).map fun p => (c :: p.1, p.2)
    else some ([], max column furthest, ⟨c :: r, line, column, column⟩)

/-- What stands at the end of the lines of a block read so far: the break behind the last line, the
breaks of the empty lines after that, and whether the last line starts with a blank. -/
structure BlockTail where
  lastBreak : List Char
  emptyBreaks : List Char
  blankStart : Bool

/-- The breaks between the lines read so far and the next one. A folded block turns a break between
two lines that do not start with blanks into a space. -/
def BlockTail.joint (literal : Bool) (t : BlockTail) (nextBlank : Bool) : List Char :=
  let first :=
    if !literal && t.lastBreak == ['\n'] && !t.blankStart && !nextBlank then
      (if t.emptyBreaks.isEmpty then [' '] else [])
    else t.lastBreak
  first ++ t.emptyBreaks

/-- The breaks at the end of a block that belong to it. -/
def BlockTail.kept (t : BlockTail) : Chomping → List Char
  | .strip => []
  | .clip => t.lastBreak
  | .keep => t.lastBreak ++ t.emptyBreaks

/-- The lines of a block from the position of its next line on. -/
def blockLines? (literal : Bool) (indent : Nat) (chomping : Chomping) :
    Nat → BlockTail → Cursor → Option Found
  | 0, _, _ => none
  | fuel + 1, tail, c =>
    if c.column ≠ indent ∨ c.rest.isEmpty then some ⟨tail.kept chomping, c, true⟩
    else
      let nextBlank := c.rest.head?.any isBlank
      let (line, behind) := c.span fun ch => !isBreak ch
      let next := behind.skipBreak
      match emptyLines? (some indent) next.rest next.line next.column 0 with
      | none => none
      | some (breaks, _, c) =>
        let nextTail := ⟨behind.rest.head?.toList, breaks, nextBlank⟩
        (blockLines? literal indent chomping fuel nextTail c).map
          (·.after (tail.joint literal nextBlank ++ line))

/-- A block scalar inside a block with the given indentation, if any; the cursor stands on its
mark. -/
def block? (literal : Bool) (parent : Option Nat) (c : Cursor) : Option Found :=
  match blockHead? (c.rest.drop 1) with
  | none => none
  | some (head, rest) =>
    match restOfLine? (c.skip (c.rest.length - rest.length)) with
    | none => none
    | some c =>
      let c := c.skipBreak
      let given := head.increment.map fun n => parent.getD 0 + n
      match emptyLines? given c.rest c.line c.column 0 with
      | none => none
      | some (breaks, furthest, c) =>
        let least := match parent with
          | some i => i + 1
          | none => 1
        let indent := given.getD (max furthest least)
        blockLines? literal indent head.chomping (c.rest.length + 1) ⟨[], breaks, false⟩ c

end Yaml

end Dialogue
