/-
Reading documents from YAML text. A text holds one document; one without any is an unquoted leaf
without text. The document is loose: an unquoted leaf keeps its text beside the value that its word
stands for.

A tag of the standard types decides what a leaf stands for, a tag with an exclamation mark is a
label, and any other tag makes text of a leaf. An alias is a shared part, and the number of aliases
that may be followed grows with the size of the text. Lists and tables below the greatest depth are
unreadable, so that a part that refers to itself ends somewhere.
-/
import Dialogue.Document.Read
import Dialogue.Yaml.Layout
import Dialogue.Yaml.Node

namespace Dialogue

namespace Yaml

/-- How deep lists and tables may be nested. -/
def maxDepth : Nat := 128

/-- The number of aliases that may be followed for each part of a text. -/
def aliasFactor : Nat := 100

/-! ## Leaves -/

/-- The standard types by the names that their tags end in. -/
def standardTypes : List (String × ScalarType) :=
  [("null", .null), ("bool", .bool), ("int", .integer), ("float", .float)]

/-- The type that a tag declares. -/
def declaredType (tag : List UInt8) : ScalarType :=
  match standardTypes.find? fun t => tag == asciiBytes ("tag:yaml.org,2002:" ++ t.1).toList with
  | some (_, type) => type
  | none => .other

/-- The label that a tag is: what stands behind its exclamation mark, or the mark alone. Bytes that
are no text are no label. -/
def label? (tag : Option (List UInt8)) : Option String :=
  match tag with
  | some (0x21 :: bytes) =>
    String.fromUTF8? ⟨(if bytes.isEmpty then [0x21] else bytes).toArray⟩
  | _ => none

/-- What a text stands for under a tag. A tag with an exclamation mark says nothing about it. -/
def taggedScalar (tag : List UInt8) (text : String) (style : LeafStyle) : Scalar :=
  match declaredType tag with
  | .null => if Word.isNull text then .null else .unreadable
  | .bool => match Word.bool? text with
    | some b => .bool b
    | none => .unreadable
  | .integer => (Word.integer? text).getD .unreadable
  | .float => match Word.float? text with
    | some x => .number (.double x)
    | none => .unreadable
  | .other => if style = .plain ∧ tag.head? = some 0x21 then Word.resolve text else .text text

/-- What a text stands for. -/
def scalarOf (tag : Option (List UInt8)) (text : String) (style : LeafStyle) : Scalar :=
  match tag with
  | some tag => taggedScalar tag text style
  | none => if style = .plain then Word.resolve text else .text text

/-- A document with the label that a tag is. -/
def labelledBy (tag : Option (List UInt8)) (d : Document) : Document :=
  match label? tag with
  | some label => .labelled label d
  | none => d

/-! ## Aliases -/

/-- The document of what cannot be read. -/
def unreadable : Document := .leaf (.strict .unreadable)

/-- The documents that the numbers of anchored nodes stand for, at one depth. -/
abbrev Anchors := List (Nat × Document)

/-- The document that an alias stands for. -/
def Anchors.document (anchors : Anchors) (number : Nat) : Document :=
  match anchors.find? (·.1 == number) with
  | some (_, d) => .shared d
  | none => unreadable

mutual
/-- The document of a node, given what aliases stand for at its depth and at each depth below, down
to the greatest. -/
def expand (here : Anchors) (below : List Anchors) : Node → Document
  | .scalar tag text style =>
    labelledBy tag (.leaf ⟨scalarOf tag text style, some text, style, tag.map declaredType⟩)
  | .list tag items => match below with
    | [] => unreadable
    | next :: rest => labelledBy tag (.list false (expandItems next rest items))
  | .table tag entries => match below with
    | [] => unreadable
    | next :: rest => labelledBy tag (.table false (expandEntries next rest entries))
  | .alias number => here.document number

/-- The documents of the items of a list. -/
def expandItems (here : Anchors) (below : List Anchors) : List Node → List Document
  | [] => []
  | n :: rest => expand here below n :: expandItems here below rest

/-- The documents of the entries of a table. -/
def expandEntries (here : Anchors) (below : List Anchors) :
    List (Node × Node) → List (Document × Document)
  | [] => []
  | (k, n) :: rest => (expand here below k, expand here below n) :: expandEntries here below rest
end

/-- The anchored nodes by the numbers that stand for them. -/
def Graph.targets (g : Graph) : List (Nat × Node) :=
  g.holders.filterMap fun (number, serial) =>
    (g.anchored.find? (·.1 == serial)).map fun found => (number, found.2)

/-- What aliases stand for where fewer than `depth` levels may follow, from the most levels to
none. -/
def Graph.anchors (g : Graph) : Nat → List Anchors
  | 0 => []
  | depth + 1 =>
    let below := g.anchors depth
    (g.targets.map fun (number, n) => (number, expand [] below n)) :: below

/-- The document of a text without any. -/
def emptyDocument : Document := .leaf ⟨.null, some "", .plain, none⟩

/-- The document that was read of a text. -/
def Graph.document (g : Graph) : Document :=
  match g.root with
  | none => emptyDocument
  | some root => expand [] (g.anchors maxDepth) root

/-- What a text holds. -/
def source? (text : String) : Option Source := do
  let tokens ← tokens? text.toList
  let graph ← Graph.ofTokens? tokens
  return ⟨graph.document, aliasFactor * graph.size⟩

end Yaml

end Dialogue
