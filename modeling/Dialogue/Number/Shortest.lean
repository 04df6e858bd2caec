/-
The shortest decimal of a binary number: of all decimals that lie in the number's rounding interval
(and so read back as the number), one with the fewest digits, and of those the nearest. Of two
nearest ones, the style of the text takes the even or the greater one.

On each decimal grid only the two neighbours of the number have to be looked at: if any point of
the grid lies in the interval, one of the neighbours does.
-/
import Dialogue.Number.Binary

namespace Dialogue

/-- Which of two decimals that are equally near is taken. -/
inductive Tie
  | even
  | greater
deriving DecidableEq, Repr

/-- A decimal text style: which scientific exponents are written positionally (`none` for all),
whether a whole number keeps `.0`, whether a positive exponent has a plus sign, and where a tie
goes. -/
structure DecimalStyle where
  positional : Option (Int × Int)
  pointZero : Bool
  plusExponent : Bool
  tie : Tie
deriving DecidableEq, Repr

namespace Shortest

/-- The order of `d · 10 ^ k` and `b · 2 ^ e`. -/
def compareDecimal (d : Nat) (k : Int) (b : Nat) (e : Int) : Ordering :=
  let (p, q) := Binary.scaleTen d 1 k
  let (r, s) := Binary.scaleTwo b 1 e
  compare (p * s) (r * q)

/-- Whether `d · 10 ^ k` rounds to `m · 2 ^ e`. The interval reaches half a unit to both sides,
a quarter below a power of two, and holds its ends exactly when `m` is even. -/
def readsBack (f : FloatFormat) (m : Nat) (e : Int) (d : Nat) (k : Int) : Bool :=
  let below := if m = Nat.pow 2 (f.bits - 1) ∧ f.least < e then 1 else 2
  let low := compareDecimal d k (4 * m - below) (e - 2)
  let high := compareDecimal d k (4 * m + 2) (e - 2)
  (low == .gt || low == .eq && m % 2 == 0) && (high == .lt || high == .eq && m % 2 == 0)

/-- The exponent `s` with `10 ^ s ≤ n / d < 10 ^ (s + 1)`. -/
def scientific (n d : Nat) : Int :=
  if d ≤ n then (Nat.toDigits 10 (n / d)).length - 1
  else -(Nat.toDigits 10 ((d + n - 1) / n - 1)).length

/-- Of the two neighbours of `m · 2 ^ e` on the grid of step `10 ^ k`, the nearest that reads
back. -/
def onGrid? (tie : Tie) (f : FloatFormat) (m : Nat) (e : Int) (k : Int) : Option Nat :=
  let (n, d) := Binary.scaleTwo m 1 e
  let (n, d) := Binary.scaleTen n d (-k)
  let a := n / d
  let r := n % d
  let nearA := decide (2 * r < d) || 2 * r == d && tie == .even && a % 2 == 0
  let (first, second) := if nearA then (a, a + 1) else (a + 1, a)
  if readsBack f m e first k then some first
  else if readsBack f m e second k then some second
  else none

/-- The first grid of `count`, `count + 1`, ... significant digits on which a decimal reads back,
among the next `more` grids. -/
def search (tie : Tie) (f : FloatFormat) (m : Nat) (e : Int) (s : Int) (count : Nat) :
    Nat → Nat × Int
  | 0 => (0, 0)
  | more + 1 =>
    let k := s + 1 - count
    match onGrid? tie f m e k with
    | some d => (d, k)
    | none => search tie f m e s (count + 1) more

/-- A decimal without the zeros its digits end with. -/
def stripZeros (d : Nat) (k : Int) : Nat → Nat × Int
  | 0 => (d, k)
  | n + 1 => if d % 10 = 0 ∧ d ≠ 0 then stripZeros (d / 10) (k + 1) n else (d, k)

/-- The shortest decimal `d · 10 ^ k` of `m · 2 ^ e`, for a significand that is not zero. -/
def decimal (tie : Tie) (f : FloatFormat) (m : Nat) (e : Int) : Nat × Int :=
  let (n, d) := Binary.scaleTwo m 1 e
  let (digits, k) := search tie f m e (scientific n d) 1 17
  stripZeros digits k 17

end Shortest

namespace DecimalStyle

/-- The text of `digits · 10 ^ k`, where `digits` are the digits of a number that is not zero. -/
def write (style : DecimalStyle) (digits : List Char) (k : Int) : String :=
  let s : Int := k + digits.length - 1
  let positional := match style.positional with
    | none => true
    | some (low, high) => decide (low ≤ s) && decide (s ≤ high)
  if positional then
    if 0 ≤ k then
      String.ofList (digits ++ List.replicate k.toNat '0') ++ (if style.pointZero then ".0" else "")
    else if 0 ≤ s then
      String.ofList (digits.take (s + 1).toNat ++ '.' :: digits.drop (s + 1).toNat)
    else
      String.ofList ('0' :: '.' :: List.replicate (-s - 1).toNat '0' ++ digits)
  else
    let fraction := if digits.length = 1 then [] else '.' :: digits.drop 1
    let sign := if s < 0 then "-" else if style.plusExponent then "+" else ""
    String.ofList (digits.take 1 ++ fraction) ++ "e" ++ sign ++ toString s.natAbs

/-- The text of a finite number of the format. -/
def finite (style : DecimalStyle) (f : FloatFormat) (negative : Bool) (m : Nat) (e : Int) :
    String :=
  let sign := if negative then "-" else ""
  if m = 0 then sign ++ (if style.pointZero then "0.0" else "0")
  else
    let (d, k) := Shortest.decimal style.tie f m e
    sign ++ style.write (Nat.toDigits 10 d) k

/-- The plain style: every number positionally, a whole one without a point, ties upward. -/
def plain : DecimalStyle := ⟨none, false, false, .greater⟩

end DecimalStyle

/-- A double in plain style, with words for what is not finite. -/
def Binary.plainText : Binary → String
  | .finite s m e => DecimalStyle.plain.finite .double s m e
  | .infinite s => if s then "-inf" else "inf"
  | .nan => "NaN"

end Dialogue
