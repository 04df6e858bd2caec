/-
Reading a condition part by part: the blanks in front, the name, the blanks behind it, and what is left for the
operator and its literal. A name and a literal with ` == ` between them are the comparison that says so, when the
literal is one that is read as it is written.
-/
import Dialogue.Condition
import Dialogue.Proofs.Text.Name
import Mathlib.Data.List.Basic

namespace Dialogue

namespace Condition

/-! ## The whole text -/

/-- The name that a text begins with between blanks, and what is left for the operator and its literal. -/
def nameAndTail? (s : List Char) : Option (List Char × List Char) :=
  (Template.name? (Text.trimStart s)).map fun p => (p.1, Text.trimStart p.2)

theorem comparison?_eq (s : List Char) : comparison? s = (nameAndTail? s).bind fun p =>
    (tail? p.2).map fun t => ⟨String.ofList p.1, t.1, String.ofList t.2⟩ := by
  unfold comparison? nameAndTail?
  cases Template.name? (Text.trimStart s) with
  | none => rfl
  | some p =>
    simp only [Option.bind_eq_bind, Option.bind_some, Option.map_some]
    cases tail? (Text.trimStart p.2) <;> rfl

theorem nameAndTail?_append {name before between s : List Char} (hname : Text.IsName name)
    (hbefore : before.all Text.isBlank = true) (hbetween : between.all Text.isBlank = true)
    (hs : ∀ c, s.head? = some c → Text.isBlank c = false ∧ Text.continuesName c = false) :
    nameAndTail? (before ++ name ++ between ++ s) = some (name, s) := by
  have hstart : Text.trimStart (before ++ (name ++ (between ++ s))) = name ++ (between ++ s) :=
    Text.trimStart_append_of_head hbefore (hname.isBlank_head _)
  have hrest : ∀ c, (between ++ s).head? = some c → Text.continuesName c = false :=
    Text.continuesName_head hbetween fun c hc => (hs c hc).2
  have htail : Text.trimStart (between ++ s) = s :=
    Text.trimStart_append_of_head hbetween fun c hc => (hs c hc).1
  unfold nameAndTail?
  rw [List.append_assoc, List.append_assoc, hstart, Template.name?_append hname hrest, Option.map_some, htail]

theorem comparison?_append {name before between s : List Char} (hname : Text.IsName name)
    (hbefore : before.all Text.isBlank = true) (hbetween : between.all Text.isBlank = true)
    (hs : ∀ c, s.head? = some c → Text.isBlank c = false ∧ Text.continuesName c = false) :
    comparison? (before ++ name ++ between ++ s) =
      (tail? s).map fun t => ⟨String.ofList name, t.1, String.ofList t.2⟩ := by
  rw [comparison?_eq, nameAndTail?_append hname hbefore hbetween hs, Option.bind_some]

/-- The name ends where an operator begins, and so do the blanks. -/
theorem spelling_head {spelling s : List Char} {operator : Operator} (h : (spelling, operator) ∈ Operator.spellings) :
    ∀ c, (spelling ++ s).head? = some c → Text.isBlank c = false ∧ Text.continuesName c = false := by
  intro c hc
  simp only [Operator.spellings, List.mem_cons, Prod.mk.injEq, List.not_mem_nil, or_false] at h
  rcases h with ⟨rfl, -⟩ | ⟨rfl, -⟩ | ⟨rfl, -⟩ | ⟨rfl, -⟩ | ⟨rfl, -⟩ | ⟨rfl, -⟩ | ⟨rfl, -⟩ | ⟨rfl, -⟩ <;>
    (cases hc; decide)

theorem read_eq_comparison_iff {expression : String} {c : Comparison} :
    read expression = .comparison c ↔ comparison? expression.toList = some c := by
  unfold read
  cases comparison? expression.toList <;> simp

theorem read_of_none {expression : String} (h : comparison? expression.toList = none) :
    read expression = .unreadable expression := by
  unfold read
  rw [h]

/-! ## Equality -/

/-- What does not begin with `=` belongs to no longer spelling than `==` or `!=`. -/
theorem tail?_equality {operator : Operator} (ho : operator = .equal ∨ operator = .notEqual) {s : List Char}
    (hs : s.head? ≠ some '=') :
    tail? (operator.symbol.toList ++ s) = (literal? s).map fun literal => (operator, literal) := by
  have hlonger : ['='].isPrefixOf? s = none := by
    rw [Option.eq_none_iff_forall_ne_some]
    intro rest hrest
    rw [List.isPrefixOf?_eq_some_iff_append_eq] at hrest
    exact hs (hrest ▸ rfl)
  rcases ho with rfl | rfl <;> cases hl : literal? s <;>
    simp [tail?, Operator.spellings, Operator.symbol, List.isPrefixOf?, hlonger, hl]

/-- A name and a text, with `==` or `!=` between them. -/
theorem read_equality {operator : Operator} (ho : operator = .equal ∨ operator = .notEqual) {name : String}
    {between s literal : List Char} (hname : Text.IsName name.toList) (hbetween : between.all Text.isBlank = true)
    (hs : s.head? ≠ some '=') (h : literal? s = some literal) :
    read (String.ofList (name.toList ++ between ++ (operator.symbol.toList ++ s))) =
      .comparison ⟨name, operator, String.ofList literal⟩ := by
  have hhead : ∀ c, (operator.symbol.toList ++ s).head? = some c →
      Text.isBlank c = false ∧ Text.continuesName c = false := by
    rcases ho with rfl | rfl <;> (rintro c ⟨⟩; decide)
  have hchars := comparison?_append hname (show [].all Text.isBlank = true from rfl) hbetween hhead
  rw [tail?_equality ho hs, h, List.nil_append] at hchars
  apply read_eq_comparison_iff.2
  rw [String.toList_ofList, hchars, Option.map_some, Option.map_some, String.ofList_toList]

/-- An equality with a literal that is read as it is written. -/
theorem read_equal {name literal : String} (hname : Text.IsName name.toList)
    (h : literal? (' ' :: literal.toList) = some literal.toList) :
    read (name ++ " == " ++ literal) = .comparison ⟨name, .equal, literal⟩ := by
  have hread := read_equality (.inl rfl) hname (show [' '].all Text.isBlank = true by decide) (by simp) h
  rw [String.ofList_toList] at hread
  rw [← hread, ← String.ofList_toList (s := name ++ " == " ++ literal)]
  simp [Operator.symbol]

/-- Equality is equality of texts. -/
theorem holds_equal (name literal : String) (vars : Variables) :
    (Condition.comparison ⟨name, .equal, literal⟩).holds vars = (vars.lookupText name == some literal) := by
  show Comparison.holds ⟨name, .equal, literal⟩ vars = _
  unfold Comparison.holds Variables.lookupText
  cases vars.lookup name <;> simp

theorem holds_notEqual (name literal : String) (vars : Variables) :
    (Condition.comparison ⟨name, .notEqual, literal⟩).holds vars = (vars.lookupText name != some literal) := by
  show Comparison.holds ⟨name, .notEqual, literal⟩ vars = _
  unfold Comparison.holds Variables.lookupText
  cases vars.lookup name <;> simp [bne]

end Condition

end Dialogue
