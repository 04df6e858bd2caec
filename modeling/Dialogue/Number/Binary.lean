/-
Binary floating-point numbers as exact values. A finite number is a sign, a significand and a power
of two, so order, rounding and scaling are exact arithmetic on naturals and every comparison that
the engine makes can be computed without machine floats.

Rounding is to the nearest number of the format, a tie going to the even significand. The two
formats in use are the double (53 bits) and the single (24 bits) precision of IEEE 754.
-/

namespace Dialogue

/-- A binary format: how many bits a significand has, and the least and the greatest exponent of
its last bit. -/
structure FloatFormat where
  bits : Nat
  least : Int
  greatest : Int
deriving DecidableEq, Repr

/-- Double precision. -/
def FloatFormat.double : FloatFormat := ⟨53, -1074, 971⟩

/-- Single precision. -/
def FloatFormat.single : FloatFormat := ⟨24, -149, 104⟩

/-- A number of a binary format: `± significand · 2 ^ exponent`, an infinity, or no number. -/
inductive Binary
  | finite (negative : Bool) (significand : Nat) (exponent : Int)
  | infinite (negative : Bool)
  | nan
deriving DecidableEq, Repr, Inhabited

namespace Binary

/-! ## Exact arithmetic -/

/-- The fraction `n / d · 2 ^ e`, numerator first. -/
def scaleTwo (n d : Nat) (e : Int) : Nat × Nat :=
  if 0 ≤ e then (n * Nat.pow 2 e.toNat, d) else (n, d * Nat.pow 2 (-e).toNat)

/-- The fraction `n / d · 10 ^ e`, numerator first. -/
def scaleTen (n d : Nat) (e : Int) : Nat × Nat :=
  if 0 ≤ e then (n * Nat.pow 10 e.toNat, d) else (n, d * Nat.pow 10 (-e).toNat)

/-- The natural number nearest to `n / d`, a tie going to the even one. -/
def nearest (n d : Nat) : Nat :=
  let q := n / d
  let r := n % d
  if 2 * r < d then q else if d < 2 * r then q + 1 else if q % 2 = 0 then q else q + 1

/-- A significand below `2 ^ bits` at an exponent of the format. One that rounding carried to
`2 ^ bits` moves to the next exponent, and what lies beyond the greatest exponent is infinite. -/
def normal (f : FloatFormat) (negative : Bool) (significand : Nat) (exponent : Int) : Binary :=
  let carried := decide (Nat.pow 2 f.bits ≤ significand)
  let significand := if carried then significand / 2 else significand
  let exponent := if carried then exponent + 1 else exponent
  if f.greatest < exponent then .infinite negative else .finite negative significand exponent

/-- The number of the format nearest to `± n / d`. -/
def ofRatio (f : FloatFormat) (negative : Bool) (n d : Nat) : Binary :=
  if n = 0 then .finite negative 0 f.least
  else
    let low : Int := (n.log2 : Int) - d.log2 - f.bits
    let (p, q) := scaleTwo n d (-low)
    let exponent := max f.least (if p / q < Nat.pow 2 f.bits then low else low + 1)
    let (p, q) := scaleTwo n d (-exponent)
    normal f negative (nearest p q) exponent

/-- The number of the format nearest to an integer. -/
def ofInt (f : FloatFormat) (n : Int) : Binary := ofRatio f (decide (n < 0)) n.natAbs 1

/-- Zero. -/
def zero (f : FloatFormat) : Binary := .finite false 0 f.least

/-- The number of the format nearest to a given one. -/
def toFormat (f : FloatFormat) : Binary → Binary
  | .finite s m e => let (p, q) := scaleTwo m 1 e; ofRatio f s p q
  | x => x

/-- The double nearest to `x · n / d`. -/
def scale (x : Binary) (n d : Nat) : Binary :=
  match x with
  | .finite s m e => let (p, q) := scaleTwo (m * n) d e; ofRatio .double s p q
  | x => x

/-- The number with its sign changed. -/
def negate : Binary → Binary
  | .finite s m e => .finite (!s) m e
  | .infinite s => .infinite (!s)
  | .nan => .nan

/-- Whether a number is finite. -/
def isFinite : Binary → Bool
  | .finite .. => true
  | _ => false

/-! ## Order -/

/-- The signed integer `± m · 2 ^ (e - low)`, for an exponent `low` that is not above `e`. -/
def aligned (negative : Bool) (m : Nat) (e low : Int) : Int :=
  let v : Int := (m * Nat.pow 2 (e - low).toNat : Nat)
  if negative then -v else v

/-- The order of two numbers; a `nan` has no order to any number, also not to itself. -/
def compare? : Binary → Binary → Option Ordering
  | .nan, _ => none
  | _, .nan => none
  | .infinite a, .infinite b => some (if a = b then .eq else if a then .lt else .gt)
  | .infinite a, .finite .. => some (if a then .lt else .gt)
  | .finite .., .infinite b => some (if b then .gt else .lt)
  | .finite s m e, .finite t n k =>
    let low := min e k
    some (compare (aligned s m e low) (aligned t n k low))

/-- Whether `x` is below `y`. -/
def lt (x y : Binary) : Bool := x.compare? y == some .lt

/-- Whether `x` is below or equal to `y`. -/
def le (x y : Binary) : Bool := x.compare? y == some .lt || x.compare? y == some .eq

/-- Numeric equality: the two zeros are equal, and a `nan` equals nothing. -/
instance : BEq Binary := ⟨fun x y => x.compare? y == some .eq⟩

/-- The smaller of two numbers; a `nan` gives way to the other. -/
def least (x y : Binary) : Binary :=
  if x = .nan then y else if y = .nan then x else if y.lt x then y else x

end Binary

end Dialogue
