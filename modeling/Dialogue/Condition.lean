/-
Conditions: `name operator literal`, blanks allowed around each part. Reading never fails: a text
that does not fit is `unreadable` and never holds.

The operator is the longest spelling that leaves a literal. The literal is what stands behind it
without the blanks around, on one line; one pair of equal quotes around it is taken off.

`==` and `!=` compare the text of the value, `>`, `<`, `>=` and `<=` compare numbers. A name
without value differs from every literal, and no order holds between things that are not numbers.
-/
import Dialogue.Template
import Dialogue.Number.Decimal

namespace Dialogue

/-- The operators of conditions. -/
inductive Operator
  | equal
  | notEqual
  | above
  | below
  | atLeast
  | atMost
deriving DecidableEq, Repr

/-- The short spelling of an operator. -/
def Operator.symbol : Operator → String
  | .equal => "=="
  | .notEqual => "!="
  | .above => ">"
  | .below => "<"
  | .atLeast => ">="
  | .atMost => "<="

/-- All spellings, each before those that it starts with. -/
def Operator.spellings : List (List Char × Operator) := [
  (['=', '=', '='], .equal), (['!', '=', '='], .notEqual), (['=', '='], .equal),
  (['!', '='], .notEqual), (['>', '='], .atLeast), (['<', '='], .atMost), (['>'], .above),
  (['<'], .below)]

/-- A comparison of a variable with a literal. -/
structure Comparison where
  name : String
  operator : Operator
  literal : String
deriving DecidableEq, Repr

/-- What a text says as a condition. -/
inductive Condition
  | comparison (c : Comparison)
  | unreadable (expression : String)
deriving DecidableEq, Repr

namespace Condition

/-! ## Reading -/

/-- A text without the pair of equal quotes around it. -/
def unquote : List Char → List Char
  | [] => []
  | q :: r => if (q = '"' ∨ q = '\x27') ∧ r.getLast? = some q then r.dropLast else q :: r

/-- The literal that a text holds between blanks. -/
def literal? (s : List Char) : Option (List Char) :=
  let l := Text.trimChars s
  if l = [] ∨ '\n' ∈ l then none else some (unquote l)

/-- An operator and a literal. -/
def tail? (s : List Char) : Option (Operator × List Char) :=
  Operator.spellings.findSome? fun p =>
    (p.1.isPrefixOf? s).bind fun rest => (literal? rest).map fun l => (p.2, l)

/-- The comparison that a text writes. -/
def comparison? (s : List Char) : Option Comparison := do
  let (name, rest) ← Template.name? (Text.trimStart s)
  let (operator, literal) ← tail? (Text.trimStart rest)
  return ⟨String.ofList name, operator, String.ofList literal⟩

/-- What a text says as a condition. -/
def read (expression : String) : Condition :=
  match comparison? expression.toList with
  | some c => .comparison c
  | none => .unreadable expression

/-- Why a text is no condition. -/
def grammarMessage : String := "expected `<identifier> <op> <literal>`"

/-- Whether a condition could be read. -/
def isReadable : Condition → Bool
  | .comparison _ => true
  | .unreadable _ => false

/-! ## Evaluation -/

/-- The number that a text writes between blanks. -/
def number? (s : String) : Option Binary :=
  (FloatText.read? (Text.trimChars s.toList)).filter (· ≠ .nan)

/-- The number of a value: of a number itself, or of a text that writes one. -/
def valueNumber? : Value → Option Binary
  | .number n => some n.toDouble
  | .text s => number? s
  | _ => none

/-- Whether an order operator holds between two numbers. -/
def ordered (operator : Operator) (x y : Binary) : Bool :=
  match operator with
  | .above => y.lt x
  | .below => x.lt y
  | .atLeast => y.le x
  | .atMost => x.le y
  | .equal => false
  | .notEqual => false

end Condition

/-- Whether a comparison holds. -/
def Comparison.holds (c : Comparison) (vars : Variables) : Bool :=
  let actual := vars.lookup c.name
  match c.operator with
  | .equal => match actual with
    | some v => v.display == c.literal
    | none => false
  | .notEqual => match actual with
    | some v => v.display != c.literal
    | none => true
  | operator => match actual.bind Condition.valueNumber?, Condition.number? c.literal with
    | some x, some y => Condition.ordered operator x y
    | _, _ => false

/-- Whether a condition holds; one that could not be read never does. -/
def Condition.holds (c : Condition) (vars : Variables) : Bool :=
  match c with
  | .comparison c => c.holds vars
  | .unreadable _ => false

end Dialogue
