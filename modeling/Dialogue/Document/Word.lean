/-
Unquoted words: what text without quotes stands for where nothing tells which type is expected.
A word is null, a truth value, an integer in one of four bases, a number with a fraction, or else
the text itself. Integers with superfluous leading zeros are text.
-/
import Dialogue.Number.Decimal
import Dialogue.Value.Basic

namespace Dialogue

/-- The content of a leaf of a document. `minusZero` is the integer zero with a minus sign: it is
the number zero, but no position in a list. Content that has no value, such as an integer outside
the range of integers, is `unreadable`. -/
inductive Scalar
  | null
  | bool (b : Bool)
  | number (n : Number)
  | minusZero
  | text (s : String)
  | unreadable
deriving DecidableEq, Repr

/-- The number that content is. -/
def Scalar.number? : Scalar → Option Number
  | .number n => some n
  | .minusZero => some (.integer 0)
  | _ => none

/-- The types that a leaf can be declared to have: the ones of its own kinds of content, and any
other. -/
inductive ScalarType
  | null
  | bool
  | integer
  | float
  | other
deriving DecidableEq, Repr

/-- How a leaf is written: as an unquoted word, as a block of literal lines, or in another way. -/
inductive LeafStyle
  | plain
  | literal
  | other
deriving DecidableEq, Repr

/-- The greatest integer. -/
def maxInteger : Nat := Nat.pow 2 64 - 1

namespace Word

/-- The words for null. -/
def isNull (s : String) : Bool := s == "null" || s == "Null" || s == "NULL" || s == "~"

/-- The words for truth values. -/
def bool? (s : String) : Option Bool :=
  if s == "true" || s == "True" || s == "TRUE" then some true
  else if s == "false" || s == "False" || s == "FALSE" then some false
  else none

/-- The value of a digit in bases up to sixteen. -/
def digit? (base : Nat) (c : Char) : Option Nat :=
  let n :=
    if c.isDigit then c.toNat - '0'.toNat
    else if 'a' ≤ c ∧ c ≤ 'f' then c.toNat - 'a'.toNat + 10
    else if 'A' ≤ c ∧ c ≤ 'F' then c.toNat - 'A'.toNat + 10
    else base
  if n < base then some n else none

/-- The number that digits of a base write, if there are any and it is at most `limit`. -/
def digits? (base limit : Nat) (ds : List Char) : Option Nat :=
  if ds = [] then none
  else match ds.mapM (digit? base) with
    | none => none
    | some ns =>
      let n := ns.foldl (fun n d => n * base + d) 0
      if n ≤ limit then some n else none

/-- Whether a text is digits with a superfluous zero in front. -/
def hasLeadingZero (s : List Char) : Bool :=
  let s := match s with
    | '-' :: r => r
    | '+' :: r => r
    | r => r
  match s with
  | '0' :: r => !r.isEmpty && r.all Char.isDigit
  | _ => false

/-- A word in digits of the base that its prefix names, without a sign. -/
def magnitude? (limit : Nat) : List Char → Option Nat
  | '0' :: 'x' :: ds => digits? 16 limit ds
  | '0' :: 'o' :: ds => digits? 8 limit ds
  | '0' :: 'b' :: ds => digits? 2 limit ds
  | ds => if hasLeadingZero ds then none else digits? 10 limit ds

/-- An integer that is not negative, at most `limit`. -/
def natural? (limit : Nat) : List Char → Option Nat
  | '+' :: s => magnitude? limit s
  | s => magnitude? limit s

/-- An integer with a minus sign, its magnitude at most `limit`. -/
def negative? (limit : Nat) : List Char → Option Int
  | '-' :: s => (magnitude? limit s).map fun n => -(n : Int)
  | _ => none

/-- A number as a double: digits, or one of the words for the infinities and for no number. -/
def float? (s : String) : Option Binary :=
  let unsigned := match s.toList with
    | '+' :: r => if r.head? = some '+' ∨ r.head? = some '-' then [] else r
    | r => r
  let word := String.ofList unsigned
  if word == ".inf" || word == ".Inf" || word == ".INF" then some (.infinite false)
  else if s == "-.inf" || s == "-.Inf" || s == "-.INF" then some (.infinite true)
  else if s == ".nan" || s == ".NaN" || s == ".NAN" then some .nan
  else match FloatText.read? unsigned with
    | some x => if x.isFinite then some x else none
    | none => none

/-- An integer word of any sign. Integers of up to 128 bits are recognised, those outside the
range of integers being unreadable; longer ones are not integers. -/
def integer? (s : String) : Option Scalar :=
  let cs := s.toList
  match natural? maxInteger cs, negative? (Nat.pow 2 63) cs with
  | some n, _ => some (.number (.integer n))
  | none, some n => some (if n = 0 then .minusZero else .number (.integer n))
  | none, none =>
    if (natural? (Nat.pow 2 128 - 1) cs).isSome || (negative? (Nat.pow 2 127) cs).isSome then
      some .unreadable
    else none

/-- What a word stands for. -/
def resolve (s : String) : Scalar :=
  if s.isEmpty || isNull s then .null
  else match bool? s with
    | some b => .bool b
    | none => match integer? s with
      | some x => x
      | none =>
        if hasLeadingZero s.toList then .text s
        else match float? s with
          | some x => .number (.double x)
          | none => .text s

end Word

end Dialogue
