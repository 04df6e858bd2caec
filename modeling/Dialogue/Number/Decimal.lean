/-
Reading decimal text into binary numbers. `Decimal.read?` accepts digits with an optional point,
sign and exponent (a side of the point may be empty, not both), `FloatText.read?` also the words
`inf`, `infinity` and `nan` in any case. The value is the number of the format nearest to the
decimal, however many digits it has.
-/
import Dialogue.Number.Binary

namespace Dialogue

/-- The decimal `± digits · 10 ^ exponent`. -/
structure Decimal where
  negative : Bool
  digits : Nat
  exponent : Int
deriving DecidableEq, Repr

/-- The value of a digit. -/
def digitValue (c : Char) : Nat := c.toNat - '0'.toNat

/-- The natural number that a list of decimal digits writes. -/
def natOfDigits (ds : List Char) : Nat := ds.foldl (fun n c => n * 10 + digitValue c) 0

namespace Decimal

/-- The number of the format nearest to the decimal. Magnitudes that are certainly out of range
are decided from the number of digits, so no huge power is computed. -/
def toBinary (f : FloatFormat) (x : Decimal) : Binary :=
  let size : Int := (Nat.toDigits 10 x.digits).length + x.exponent
  if x.digits = 0 then .finite x.negative 0 f.least
  else if 400 < size then .infinite x.negative
  else if size < -400 then .finite x.negative 0 f.least
  else
    let (n, d) := Binary.scaleTen x.digits 1 x.exponent
    Binary.ofRatio f x.negative n d

/-- An exponent part `e±digits` that is all of a text, or nothing at all. -/
def exponent? : List Char → Option Int
  | [] => some 0
  | c :: rest =>
    if c = 'e' ∨ c = 'E' then
      let (negative, ds) := match rest with
        | '-' :: ds => (true, ds)
        | '+' :: ds => (false, ds)
        | ds => (false, ds)
      if ds ≠ [] ∧ ds.all Char.isDigit then
        some (if negative then -(natOfDigits ds : Int) else natOfDigits ds)
      else none
    else none

/-- The decimal without sign that a text writes. -/
def unsigned? (negative : Bool) (s : List Char) : Option Decimal :=
  let whole := s.takeWhile Char.isDigit
  let (fraction, rest) := match s.dropWhile Char.isDigit with
    | '.' :: r => (r.takeWhile Char.isDigit, r.dropWhile Char.isDigit)
    | r => ([], r)
  if whole ++ fraction = [] then none
  else (exponent? rest).map fun e =>
    ⟨negative, natOfDigits (whole ++ fraction), e - fraction.length⟩

/-- The decimal that a text writes. -/
def read? : List Char → Option Decimal
  | '-' :: s => unsigned? true s
  | '+' :: s => unsigned? false s
  | s => unsigned? false s

end Decimal

namespace FloatText

/-- The word for a number that is not finite. -/
def word? (negative : Bool) (s : List Char) : Option Binary :=
  let w := s.map Char.toLower
  if w = "inf".toList ∨ w = "infinity".toList then some (.infinite negative)
  else if w = "nan".toList then some .nan
  else none

/-- The double that a text writes, in digits or in a word. -/
def read? (s : List Char) : Option Binary :=
  match Decimal.read? s with
  | some d => some (d.toBinary .double)
  | none => match s with
    | '-' :: r => word? true r
    | '+' :: r => word? false r
    | r => word? false r

end FloatText

end Dialogue
