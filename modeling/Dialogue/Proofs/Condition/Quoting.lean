/-
Templates and conditions see the same variable. A placeholder and a comparison with the same name read the same value
in the same form: what the placeholder shows is the one text, on one line, with which the name is equal. To write this
text as a literal it is put between quotes, of either kind; whatever it has of quotes, braces, operators and blanks is
then part of the literal. A name without a value leaves its placeholder as it is, and differs from every literal.
-/
import Dialogue.Proofs.Condition.Grammar
import Dialogue.Proofs.Template.Cut

namespace Dialogue

/-! ## Templates of one placeholder -/

/-- The placeholder of a name, without blanks. -/
def Placeholder.ofName (name : String) : Placeholder :=
  ⟨['\x7b', '\x7b'] ++ name.toList ++ ['\x7d', '\x7d'], name.toList⟩

/-- The template that is a placeholder and nothing else. -/
def Template.ofName (name : String) : String := String.ofList (Placeholder.ofName name).written

theorem Placeholder.ofName_valid {name : String} (h : Text.IsName name.toList) : (ofName name).Valid :=
  ⟨h, [], [], rfl, rfl, by simp [ofName]⟩

theorem Template.cut_ofName {name : String} (h : Text.IsName name.toList) :
    Cut.Of ⟨[], [(.ofName name, [])]⟩ (ofName name).toList := by
  have hcut : Cut.Of ⟨[], []⟩ [] := Cut.of_ofPieces []
  have hname := hcut.placeholder (Placeholder.ofName_valid h)
  rw [List.append_nil] at hname
  rw [ofName, String.toList_ofList]
  exact hname

/-- The text of the value takes the place of the template; without a value the template stays. -/
theorem Template.interpolate_ofName {name : String} (h : Text.IsName name.toList) (vars : Variables) :
    interpolate vars (ofName name) = (vars.lookupText name).getD (ofName name) := by
  rw [(cut_ofName h).interpolate_eq vars]
  simp only [Cut.filled, Cut.replacement, Placeholder.ofName, List.flatMap_singleton, List.nil_append, List.append_nil,
    String.ofList_toList]
  cases vars.lookupText name with
  | none => rfl
  | some text => exact String.ofList_toList

namespace Condition

/-! ## Comparisons with a text in quotes -/

/-- A comparison of a name with a text in quotes, with blanks around the operator. -/
def quoting (name : String) (between : List Char) (operator : Operator) (gap : List Char) (q : Char)
    (text : String) : String :=
  String.ofList (name.toList ++ between ++ (operator.symbol.toList ++ (gap ++ (q :: text.toList ++ [q]))))

theorem isLiteral_quoted {q : Char} (hq : IsQuote q) {text : List Char} (h : '\n' ∉ text) :
    IsLiteral (q :: text ++ [q]) where
  ne_nil := nofun
  head := by
    rintro c ⟨⟩
    rcases hq with rfl | rfl <;> decide
  last := by
    intro c hc
    rw [List.getLast?_concat] at hc
    cases hc
    rcases hq with rfl | rfl <;> decide
  one_line := by
    have hne : '\n' ≠ q := by rcases hq with rfl | rfl <;> decide
    simp [hne, h]

section

variable {name text : String} {between gap : List Char} {q : Char}

/-- A text in quotes is read as a literal that stands for it, whatever it has in it. -/
theorem read_quoting {operator : Operator} (ho : operator = .equal ∨ operator = .notEqual)
    (hname : Text.IsName name.toList) (hbetween : between.all Text.isBlank = true)
    (hgap : gap.all Text.isBlank = true) (hq : IsQuote q) (htext : '\n' ∉ text.toList) :
    read (quoting name between operator gap q text) = .comparison ⟨name, operator, text⟩ := by
  have hliteral : literal? (gap ++ (q :: text.toList ++ [q])) = some text.toList := by
    have happend := literal?_append (isLiteral_quoted hq htext) hgap (show [].all Text.isBlank = true from rfl)
    rwa [List.append_nil, unquote_quoted hq] at happend
  have hhead : (gap ++ (q :: text.toList ++ [q])).head? ≠ some '=' := by
    cases gap with
    | nil => rcases hq with rfl | rfl <;> exact nofun
    | cons c gap =>
      rintro ⟨⟩
      exact absurd (List.all_eq_true.1 hgap '=' List.mem_cons_self) (by decide)
  have hread := read_equality ho hname hbetween hhead hliteral
  rwa [String.ofList_toList] at hread

end

/-- Whatever quotes are put around a text, and whatever blanks around the operator: whether a name equals the text is
the truth value given, and whether it differs from it is the other one. -/
def QuotedEquality (vars : Variables) (name text : String) (b : Bool) : Prop :=
  ∀ q, IsQuote q → ∀ between gap : List Char, between.all Text.isBlank = true → gap.all Text.isBlank = true →
    (read (quoting name between .equal gap q text)).holds vars = b ∧
      (read (quoting name between .notEqual gap q text)).holds vars = !b

theorem quotedEquality {name text : String} (hname : Text.IsName name.toList) (htext : '\n' ∉ text.toList)
    (vars : Variables) : QuotedEquality vars name text (vars.lookupText name == some text) := by
  intro q hq between gap hbetween hgap
  rw [read_quoting (.inl rfl) hname hbetween hgap hq htext, read_quoting (.inr rfl) hname hbetween hgap hq htext]
  exact ⟨holds_equal name text vars, holds_notEqual name text vars⟩

/-- For every name and all variables. If the name has a value, then its placeholder is replaced by the text of the
value; and if this text is on one line, then the name equals it in quotes. If the name has no value, then its
placeholder stays, and the name differs from every text in quotes. -/
theorem quoting_agrees {name : String} (hname : Text.IsName name.toList) (vars : Variables) :
    (∀ value, vars.lookup name = some value → interpolate vars (Template.ofName name) = value.display ∧
      ('\n' ∉ value.display.toList → QuotedEquality vars name value.display true)) ∧
    (vars.lookup name = none → interpolate vars (Template.ofName name) = Template.ofName name ∧
      ∀ text : String, '\n' ∉ text.toList → QuotedEquality vars name text false) := by
  have hinterpolate := Template.interpolate_ofName hname vars
  constructor
  · intro value hvalue
    have hlookup : vars.lookupText name = some value.display := congrArg (Option.map Value.display) hvalue
    rw [hinterpolate, hlookup]
    refine ⟨rfl, fun hline => ?_⟩
    have hequality := quotedEquality hname hline vars
    rwa [hlookup, beq_self_eq_true] at hequality
  · intro hvalue
    have hlookup : vars.lookupText name = none := congrArg (Option.map Value.display) hvalue
    rw [hinterpolate, hlookup]
    refine ⟨rfl, fun text hline => ?_⟩
    have hequality := quotedEquality hname hline vars
    rwa [hlookup] at hequality

/-- A value with quotes, braces, an operator and blanks in it, and a name without a value. -/
theorem quoting_agrees_note :
    let text := " != \"\x7b\x7bnote\x7d\x7d' "
    let vars := Variables.store .empty "note" (.text text)
    Text.IsName "note".toList ∧ vars.lookup "note" = some (.text text) ∧ '\n' ∉ text.toList ∧
      interpolate vars (Template.ofName "note") = text ∧ QuotedEquality vars "note" text true ∧
      Text.IsName "memo[0]".toList ∧ vars.lookup "memo[0]" = none ∧
      interpolate vars (Template.ofName "memo[0]") = Template.ofName "memo[0]" ∧
      QuotedEquality vars "memo[0]" "" false := by
  intro text vars
  have hnote : Text.IsName "note".toList := ⟨'n', "ote".toList, rfl, by decide, by decide⟩
  have hmemo : Text.IsName "memo[0]".toList := ⟨'m', "emo[0]".toList, rfl, by decide, by decide⟩
  have hvalue : vars.lookup "note" = some (.text text) := rfl
  have hnone : vars.lookup "memo[0]" = none := by decide +kernel
  have hline : '\n' ∉ text.toList := by decide
  obtain ⟨hshown, hequal⟩ := (quoting_agrees hnote vars).1 _ hvalue
  obtain ⟨hkept, hunequal⟩ := (quoting_agrees hmemo vars).2 hnone
  exact ⟨hnote, hvalue, hline, hshown, hequal hline, hmemo, hnone, hkept, hunequal "" (by decide)⟩

end Condition

end Dialogue
