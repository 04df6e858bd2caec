/-
Reading JSON text into documents. The whole text must be one value with blanks around it.

Text that is well formed but has no value is kept as an unreadable leaf, which fails only where
something reads it: a number beyond the range of doubles, a text with half of a surrogate pair, and
(by `document?`) a list or table nested deeper than 127 levels.

A number without fraction and exponent is an integer if it is in range. Any other number is a
double: its first digits, as many as fit 64 bits, are rounded to a double, which is then multiplied
or divided by the power of ten of its exponent and rounded once more. The digits behind the point
are taken on their own: they join the significand as long as they fit it, even where digits before
the point were left out.
-/
import Dialogue.Document.Basic

namespace Dialogue

namespace Json

/-! ## Numbers -/

/-- Digits taken into a significand: its value, how many digits went in, and how many were left
out from the first one on that did not fit. -/
structure Significand where
  value : Nat
  taken : Nat
  dropped : Nat

/-- The significand after one more digit. Once a digit has been left out all later ones are. -/
def Significand.push (s : Significand) (c : Char) : Significand :=
  let next := s.value * 10 + digitValue c
  if s.dropped = 0 ∧ next ≤ maxInteger then ⟨next, s.taken + 1, 0⟩
  else ⟨s.value, s.taken, s.dropped + 1⟩

/-- The double `10 ^ n`. -/
def powerOfTen (n : Nat) : Binary := .ofRatio .double false (Nat.pow 10 n) 1

/-- The double nearest to `x · y`. -/
def times (x : Binary) : Binary → Binary
  | .finite _ m e => let (p, q) := Binary.scaleTwo m 1 e; x.scale p q
  | y => y

/-- The double nearest to `x / y`. -/
def dividedBy (x : Binary) : Binary → Binary
  | .finite _ m e => let (p, q) := Binary.scaleTwo m 1 e; x.scale q p
  | y => y

/-- A double scaled by a power of ten; powers below `1e-308` are reached in several steps. -/
def scaled (x : Binary) (exponent : Int) : Nat → Option Binary
  | 0 => some x
  | n + 1 =>
    if exponent.natAbs ≤ 308 then
      if 0 ≤ exponent then
        let y := times x (powerOfTen exponent.toNat)
        if y.isFinite then some y else none
      else some (dividedBy x (powerOfTen exponent.natAbs))
    else if x == Binary.zero .double then some x
    else if 0 ≤ exponent then none
    else scaled (dividedBy x (powerOfTen 308)) (exponent + 308) n

/-- The exponent that an exponent part writes; none if it is out of any range. -/
def writtenExponent (negative : Bool) (digits : List Char) : Option Int :=
  let n := natOfDigits digits
  if Nat.pow 2 31 ≤ n then none else some (if negative then -(n : Int) else n)

/-- The leaf of a number, from the parts it is written in. The exponent grows by one for each digit
that was left out before the point, and shrinks by one for each that was taken behind it. -/
def numberLeaf (negative : Bool) (whole : List Char) (fraction : Option (List Char))
    (exponent : Option (Bool × List Char)) : Scalar :=
  let w := whole.foldl Significand.push ⟨0, 0, 0⟩
  let signed (x : Binary) : Scalar := .number (.double (if negative then x.negate else x))
  if fraction.isNone && exponent.isNone && w.dropped == 0 && !negative then
    .number (.integer w.value)
  else if fraction.isNone && exponent.isNone && w.dropped == 0 && w.value != 0
      && decide (w.value ≤ Nat.pow 2 63) then
    .number (.integer (-(w.value : Int)))
  else
    let s := (fraction.getD []).foldl Significand.push ⟨w.value, 0, 0⟩
    let base : Int := (w.dropped : Int) - s.taken
    match exponent with
    | none => match scaled (.ofInt .double s.value) base 5 with
      | some x => signed x
      | none => .unreadable
    | some (down, digits) => match writtenExponent down digits with
      | none =>
        if s.value ≠ 0 ∧ ¬ down then .unreadable else signed (.zero .double)
      | some e => match scaled (.ofInt .double s.value) (base + e) 5 with
        | some x => signed x
        | none => .unreadable

/-- A number, after its sign. -/
def number? (negative : Bool) (s : List Char) : Option (Scalar × List Char) :=
  let whole := s.takeWhile Char.isDigit
  let rest := s.dropWhile Char.isDigit
  if whole = [] ∨ (whole.head? = some '0' ∧ whole.length ≠ 1) then none
  else
    let afterFraction : Option (Option (List Char) × List Char) := match rest with
      | '.' :: r =>
        let ds := r.takeWhile Char.isDigit
        if ds = [] then none else some (some ds, r.dropWhile Char.isDigit)
      | r => some (none, r)
    match afterFraction with
    | none => none
    | some (fraction, rest) =>
      if rest.head? = some 'e' ∨ rest.head? = some 'E' then
        let (down, r) := match rest.drop 1 with
          | '-' :: r => (true, r)
          | '+' :: r => (false, r)
          | r => (false, r)
        let ds := r.takeWhile Char.isDigit
        if ds = [] then none
        else some (numberLeaf negative whole fraction (some (down, ds)), r.dropWhile Char.isDigit)
      else some (numberLeaf negative whole fraction none, rest)

/-! ## Texts -/

/-- The number that four hexadecimal digits write. -/
def hex4? (a b c d : Char) : Option Nat := Word.digits? 16 0xFFFF [a, b, c, d]

/-- The character of a short escape. -/
def shortEscape? (c : Char) : Option Char :=
  if c = '"' then some '"'
  else if c = '\\' then some '\\'
  else if c = '/' then some '/'
  else if c = 'b' then some '\x08'
  else if c = 'f' then some '\x0c'
  else if c = 'n' then some '\n'
  else if c = 'r' then some '\r'
  else if c = 't' then some '\t'
  else none

/-- A text after its opening quote, with the characters already read in reverse, by at most the
given number of steps. A text with half of a surrogate pair is unreadable. -/
def textFrom? (read : List Char) (whole : Bool) : Nat → List Char → Option (Scalar × List Char)
  | 0, _ => none
  | n + 1, s => match s with
    | '"' :: r => some (if whole then .text (String.ofList read.reverse) else .unreadable, r)
    | '\\' :: 'u' :: a :: b :: c :: d :: r => match hex4? a b c d with
      | none => none
      | some u =>
        if 0xD800 ≤ u ∧ u < 0xDC00 then match r with
          | '\\' :: 'u' :: a :: b :: c :: d :: after => match hex4? a b c d with
            | none => none
            | some v =>
              if 0xDC00 ≤ v ∧ v < 0xE000 then
                let c := Char.ofNat (0x10000 + (u - 0xD800) * 0x400 + (v - 0xDC00))
                textFrom? (c :: read) whole n after
              else textFrom? read false n r
          | _ => textFrom? read false n r
        else if 0xDC00 ≤ u ∧ u < 0xE000 then textFrom? read false n r
        else textFrom? (Char.ofNat u :: read) whole n r
    | '\\' :: c :: r => match shortEscape? c with
      | some c => textFrom? (c :: read) whole n r
      | none => none
    | c :: r => if c.toNat < 0x20 then none else textFrom? (c :: read) whole n r
    | [] => none

/-! ## Values -/

/-- A text without the blanks it starts with. -/
def skip (s : List Char) : List Char :=
  s.dropWhile fun c => c = ' ' || c = '\n' || c = '\t' || c = '\r'

/-- What stands after a word. -/
def word? (w : String) (s : List Char) : Option (List Char) :=
  if w.toList.isPrefixOf s then some (s.drop w.length) else none

mutual
/-- A value, and what stands after it. The text as a whole has `size` characters. -/
def value? (size : Nat) : Nat → List Char → Option (Document × List Char)
  | 0, _ => none
  | n + 1, s => match skip s with
    | [] => none
    | c :: r =>
      if c = '\x7b' then match skip r with
        | '\x7d' :: r => some (.table true [], r)
        | r => entries? size n [] r
      else if c = '[' then match skip r with
        | ']' :: r => some (.list true [], r)
        | r => items? size n [] r
      else if c = '"' then (textFrom? [] true size r).map fun p => (.leaf (.strict p.1), p.2)
      else if c = '-' then (number? true r).map fun p => (.leaf (.strict p.1), p.2)
      else if c.isDigit then (number? false (c :: r)).map fun p => (.leaf (.strict p.1), p.2)
      else if c = 't' then (word? "true" (c :: r)).map fun r => (.bool true, r)
      else if c = 'f' then (word? "false" (c :: r)).map fun r => (.bool false, r)
      else if c = 'n' then (word? "null" (c :: r)).map fun r => (.null, r)
      else none

/-- The items of a list, from one on; those before are given in reverse. -/
def items? (size : Nat) : Nat → List Document → List Char → Option (Document × List Char)
  | 0, _, _ => none
  | n + 1, before, s => match value? size n s with
    | none => none
    | some (d, r) => match skip r with
      | ',' :: r => items? size n (d :: before) r
      | ']' :: r => some (.list true (d :: before).reverse, r)
      | _ => none

/-- The entries of a table, from one on; those before are given in reverse. -/
def entries? (size : Nat) : Nat → List (Document × Document) → List Char →
    Option (Document × List Char)
  | 0, _, _ => none
  | n + 1, before, s => match skip s with
    | '"' :: r => match textFrom? [] true size r with
      | none => none
      | some (key, r) => match skip r with
        | ':' :: r => match value? size n r with
          | none => none
          | some (d, r) =>
            let before := (.leaf (.strict key), d) :: before
            match skip r with
            | ',' :: r => entries? size n before r
            | '\x7d' :: r => some (.table true before.reverse, r)
            | _ => none
        | _ => none
    | _ => none
end

/-- The deepest nesting that is read. -/
def maxDepth : Nat := 127

/-- The document of a text, none when it is not well formed. -/
def document? (s : String) : Option Document :=
  let cs := s.toList
  match value? cs.length (cs.length + 1) cs with
  | none => none
  | some (d, rest) => if skip rest = [] then some (d.capped maxDepth) else none

end Json

end Dialogue
