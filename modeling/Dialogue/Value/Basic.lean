/-
Values: what a variable can hold and what requests and replies carry. A value is null, a truth
value, a number, a text, a list or an object; the fields of an object are in increasing order of
their keys. A number is an integer or a binary number, and the two never coincide: `72` and `72.0`
are different values.
-/
import Dialogue.Number.Binary
import Dialogue.Value.Dictionary

namespace Dialogue

/-- A number: an integer, or a binary number of double or single precision. -/
inductive Number
  | integer (n : Int)
  | double (x : Binary)
  | single (x : Binary)
deriving DecidableEq, BEq, Repr, Inhabited

/-- The double nearest to a number. -/
def Number.toDouble : Number → Binary
  | .integer n => .ofInt .double n
  | .double x => x
  | .single x => x.toFormat .double

/-- The single nearest to a number. -/
def Number.toSingle : Number → Binary
  | .integer n => .ofInt .single n
  | .double x => x.toFormat .single
  | .single x => x

/-- A value of a variable, a request or a reply. -/
inductive Value
  | null
  | bool (b : Bool)
  | number (n : Number)
  | text (s : String)
  | list (items : List Value)
  | object (fields : List (String × Value))
deriving BEq, Repr, Inhabited

namespace Value

/-- The object with the given fields, a later value of a key replacing an earlier one. -/
def ofFields (fields : List (String × Value)) : Value := .object (Entries.ofList fields)

/-- The number of a natural. -/
def ofNat (n : Nat) : Value := .number (.integer n)

/-- The field of an object; other values have no fields. -/
def field? (key : String) : Value → Option Value
  | .object fields => Entries.find? key fields
  | _ => none

/-- The item of a list; other values have no items. -/
def item? (index : Nat) : Value → Option Value
  | .list items => items[index]?
  | _ => none

end Value

end Dialogue
