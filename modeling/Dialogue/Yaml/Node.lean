/-
Nodes: the tree that the tokens of a YAML text describe. Anchors and aliases are still in it: every
anchored node has a serial number, and an alias refers to one.

A name may be given to several nodes. Names are numbered in the order in which they first occur, a
name that occurs again taking the number of names so far, and each number stands for the last node
that got it.
-/
import Dialogue.Yaml.Token

namespace Dialogue

namespace Yaml

/-- A node. Its tag, if it has one, is resolved: no handle is left in it. -/
inductive Node
  | scalar (tag : Option (List UInt8)) (text : String) (style : LeafStyle)
  | list (tag : Option (List UInt8)) (items : List Node)
  | table (tag : Option (List UInt8)) (entries : List (Node × Node))
  | alias (number : Nat)

instance : Inhabited Node := ⟨.scalar none "" .plain⟩

/-- The state of reading: the tokens ahead, what handles stand for, the numbers of names, the
serial numbers of the nodes that numbers stand for, the anchored nodes, and the size of what was
read. -/
structure Reading where
  tokens : List Token
  handles : List (String × List UInt8)
  names : List (String × Nat)
  holders : List (Nat × Nat)
  serial : Nat
  anchored : List (Nat × Node)
  size : Nat

namespace Reading

/-- A reader takes tokens from the front and may fail. -/
abbrev Reader := StateT Reading Option

/-! ## Tokens -/

/-- The next token. -/
def peek : Reader (Option Token) := do return (← get).tokens.head?

/-- Drops the next token. -/
def drop : Reader Unit := modify fun r => { r with tokens := r.tokens.drop 1 }

/-- Drops the next token if it is the given one. -/
def accept (t : Token) : Reader Bool := do
  if (← peek) == some t then
    drop
    return true
  else return false

/-- Whether the next token is among the given ones, or there is none. -/
def atAny (ts : List Token) : Reader Bool := do
  match ← peek with
  | some t => return ts.contains t
  | none => return true

/-- Counts something that was read. -/
def count (n : Nat) : Reader Unit := modify fun r => { r with size := r.size + n }

/-! ## Anchors and tags -/

/-- Gives a name to a node that begins here; the result is the node's serial number. -/
def name (name : String) : Reader Nat := do
  let r ← get
  let number := r.names.length
  let serial := r.serial
  set { r with
    names := (name, number) :: r.names.filter (·.1 != name)
    holders := (number, serial) :: r.holders.filter (·.1 != number)
    serial := serial + 1 }
  return serial

/-- The tag that a handle and a suffix write. -/
def tagName? (handles : List (String × List UInt8)) (handle : String) (suffix : List UInt8) :
    Option (List UInt8) :=
  if handle.isEmpty then some suffix
  else (Entries.find? handle handles).map (· ++ suffix)

/-- What stands in front of a node: its tag, and the serial number of an anchored node. -/
structure Properties where
  tag : Option (List UInt8)
  serial : Option Nat

/-- The anchor ahead. -/
def anchor : Reader (Option Nat) := do
  match ← peek with
  | some (.anchor n) => drop; return some (← name n)
  | _ => return none

/-- The tag ahead. -/
def tag : Reader (Option (List UInt8)) := do
  match ← peek with
  | some (.tag handle suffix) => do
    drop
    match tagName? (← get).handles handle suffix with
    | some t => return some t
    | none => failure
  | _ => return none

/-- The tag and the anchor ahead, in any order. -/
def properties : Reader Properties := do
  match ← anchor with
  | some serial => return ⟨← tag, some serial⟩
  | none =>
    let t ← tag
    return ⟨t, ← anchor⟩

/-- Ends a node. -/
def finish (p : Properties) (n : Node) : Reader Node := do
  match p.serial with
  | some serial => modify fun r => { r with anchored := (serial, n) :: r.anchored }
  | none => pure ()
  return n

/-! ## Nodes -/

/-- A node that is not written. -/
def nothing : Reader Node := do
  count 1
  return .scalar none "" .plain

/-- Something unless one of the given tokens is next. -/
def orNothing (ts : List Token) (read : Reader Node) : Reader Node := do
  if ← atAny ts then nothing else read

/-- Repeats a reader until it gives nothing. -/
def many {α : Type} (read : Reader (Option α)) : Nat → Reader (List α)
  | 0 => failure
  | fuel + 1 => do
    match ← read with
    | none => return []
    | some a => return a :: (← many read fuel)

/-- An item of a list in block form. -/
def blockItem (read : Reader Node) : Reader (Option Node) := do
  if ← accept .dash then return some (← orNothing [.dash, .blockEnd] read)
  else if ← accept .blockEnd then return none
  else failure

/-- An item of a list whose dashes stand below its key, without a block of its own. -/
def looseItem (read : Reader Node) : Reader (Option Node) := do
  if ← accept .dash then return some (← orNothing [.dash, .key, .value, .blockEnd] read)
  else return none

/-- An entry of a table in block form; the dashes of a list may stand below its key. -/
def blockEntry (read : Reader Node) : Reader (Option (Node × Node)) := do
  let part := orNothing [.key, .value, .blockEnd] read
  if ← accept .key then
    let key ← part
    let v ← if ← accept .value then part else nothing
    return some (key, v)
  else if ← accept .blockEnd then return none
  else failure

/-- The only entry of a table that stands as an item in a bracketed list, behind its key mark. -/
def pairItem (read : Reader Node) : Reader Node := do
  count 2
  let key ←
    if ← atAny [.value, .comma, .closeList] then
      drop
      nothing
    else read
  let v ← if ← accept .value then orNothing [.comma, .closeList] read else nothing
  return .table none [(key, v)]

/-- Whether brackets go on: they end here, or what comes is preceded by a comma unless it is the
first. -/
def goesOn (close : Token) (first : Bool) : Reader Bool := do
  if ← accept close then return false
  else if first then return true
  else if ← accept .comma then return !(← accept close)
  else failure

/-- An item of a list in brackets. -/
def flowItem (read : Reader Node) (first : Bool) : Reader (Option Node) := do
  if ← goesOn .closeList first then
    if ← accept .key then return some (← pairItem read) else return some (← read)
  else return none

/-- An entry of a table in braces. -/
def flowEntry (read : Reader Node) (first : Bool) : Reader (Option (Node × Node)) := do
  if ← goesOn .closeTable first then
    let part := orNothing [.comma, .closeTable] read
    if ← accept .key then
      let key ← orNothing [.value, .comma, .closeTable] read
      let v ← if ← accept .value then part else nothing
      return some (key, v)
    else
      let key ← read
      return some (key, ← nothing)
  else return none

/-- Repeats a reader that treats the first part on its own. -/
def manyFrom {α : Type} (read : Bool → Reader (Option α)) (fuel : Nat) : Reader (List α) := do
  match ← read true with
  | none => return []
  | some a => return a :: (← many (read false) fuel)

/-- The content of a node. Between brackets there are no blocks; only as a part of an entry in
block form a list may go without a block of its own. A node with a tag or an anchor need not be
written. -/
def content (read : Bool → Bool → Reader Node) (fuel : Nat) (block loose : Bool) (p : Properties) :
    Reader Node := do
  match ← peek with
  | some (.scalar text style) =>
    drop
    count 1
    return .scalar p.tag text style
  | some .openList =>
    drop
    count 2
    return .list p.tag (← manyFrom (flowItem (read false false)) fuel)
  | some .openTable =>
    drop
    count 2
    return .table p.tag (← manyFrom (flowEntry (read false false)) fuel)
  | t =>
    if loose && t == some .dash then
      count 2
      return .list p.tag (← many (looseItem (read true false)) fuel)
    else if block && t == some .blockList then
      drop
      count 2
      return .list p.tag (← many (blockItem (read true false)) fuel)
    else if block && t == some .blockTable then
      drop
      count 2
      return .table p.tag (← many (blockEntry (read true true)) fuel)
    else if p.tag.isNone && p.serial.isNone then failure
    else
      count 1
      return .scalar p.tag "" .plain

/-- A node. -/
def node : Nat → Bool → Bool → Reader Node
  | 0, _, _ => failure
  | fuel + 1, block, loose => do
    match ← peek with
    | some (.alias n) => do
      drop
      count 1
      match Entries.find? n (← get).names with
      | some number => return .alias number
      | none => failure
    | _ => do
      let p ← properties
      finish p (← content (node fuel) (fuel + 1) block loose p)

/-! ## Documents -/

/-- The handles that are always there. -/
def standardHandles : List (String × List UInt8) :=
  [("!", asciiBytes ['!']), ("!!", asciiBytes "tag:yaml.org,2002:".toList)]

/-- The handles that directives define, each at most once, besides the two that are always there;
only versions 1.1 and 1.2 are known, and one version is given at most. -/
def handles? : List Directive → Option (List (String × List UInt8))
  | ds => do
    let versions := ds.filterMap fun
      | .version major minor => some (major, minor)
      | .handle .. => none
    let handles := ds.filterMap fun
      | .handle name replacement => some (name, replacement)
      | .version .. => none
    if 1 < versions.length || !versions.all fun v => v.1 == 1 && (v.2 == 1 || v.2 == 2) then none
    else if (handles.map (·.1)).eraseDups.length < handles.length then none
    else return handles ++ standardHandles

/-- The directives ahead. -/
def directives : List Token → List Directive × List Token
  | .directive d :: r =>
    let (ds, rest) := directives r
    (d :: ds, rest)
  | r => ([], r)

/-- The content of a document behind the mark of its start. -/
def afterStart (fuel : Nat) : Reader Node := do
  orNothing [.documentStart, .documentEnd] do
    match ← peek with
    | some (.directive _) => nothing
    | _ => node fuel true false

/-- The only document of a text; `none` if there is no document at all. -/
def document (fuel : Nat) : Reader (Option Node) := do
  let found ← match ← peek with
    | none => pure none
    | some (.directive _) | some .documentStart => do
      let (ds, rest) := directives (← get).tokens
      match handles? ds with
      | none => failure
      | some handles => modify fun r => { r with tokens := rest, handles }
      if ← accept .documentStart then pure (some (← afterStart fuel)) else failure
    | some _ => pure (some (← node fuel true false))
  if (← get).tokens.all (· == .documentEnd) then return found else failure

end Reading

/-- What was read of a text: its tree, the serial numbers of the nodes that numbers stand for, the
anchored nodes, and the size of it all. -/
structure Graph where
  root : Option Node
  holders : List (Nat × Nat)
  anchored : List (Nat × Node)
  size : Nat

/-- The tree that tokens describe. -/
def Graph.ofTokens? (tokens : List Token) : Option Graph :=
  let start : Reading :=
    ⟨tokens, Reading.standardHandles, [], [], 0, [], 0⟩
  ((Reading.document (tokens.length + 2)).run start).map fun (root, r) =>
    ⟨root, r.holders, r.anchored, r.size⟩

end Yaml

end Dialogue
