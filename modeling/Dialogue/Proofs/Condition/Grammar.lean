/-
The grammar of conditions. A text can be read as a condition when it is a name, a spelling of an operator and a
literal, with blanks around each of them. The spellings make this ambiguous: some of them begin with another one, and
what a shorter one leaves can belong to the literal. The name is the same in all readings, and so is the literal once
the length of the spelling is settled. The reader takes the reading with the longest spelling, and takes off one pair
of equal quotes around its literal; a text without a reading is unreadable.
-/
import Dialogue.Proofs.Condition.Reading

namespace Dialogue

namespace Condition

/-! ## Literals -/

/-- What can stand as a literal: a text on one line that neither begins nor ends with a blank. -/
structure IsLiteral (literal : List Char) : Prop where
  ne_nil : literal ≠ []
  head : ∀ c, literal.head? = some c → Text.isBlank c = false
  last : ∀ c, literal.getLast? = some c → Text.isBlank c = false
  one_line : '\n' ∉ literal

/-- The characters that can stand around a literal. -/
def IsQuote (q : Char) : Prop := q = '"' ∨ q = '\x27'

instance (q : Char) : Decidable (IsQuote q) := inferInstanceAs (Decidable (q = '"' ∨ q = '\x27'))

/-- What a literal stands for: the text between its quotes, when it begins and ends with the same quote, and else
itself. -/
inductive StandsFor : List Char → List Char → Prop
  | quoted {q : Char} (hq : IsQuote q) (text : List Char) : StandsFor (q :: text ++ [q]) text
  | plain {literal : List Char} (h : ∀ q text, IsQuote q → literal ≠ q :: text ++ [q]) : StandsFor literal literal

theorem unquote_cons (q : Char) (r : List Char) :
    unquote (q :: r) = if IsQuote q ∧ r.getLast? = some q then r.dropLast else q :: r := rfl

theorem unquote_quoted {q : Char} (hq : IsQuote q) (text : List Char) :
    unquote (q :: text ++ [q]) = text := by
  rw [List.cons_append, unquote_cons, if_pos ⟨hq, List.getLast?_concat⟩, List.dropLast_concat]

theorem standsFor_iff {literal text : List Char} : StandsFor literal text ↔ unquote literal = text := by
  constructor
  · intro h
    cases h with
    | quoted hq => exact unquote_quoted hq text
    | plain h =>
      cases literal with
      | nil => rfl
      | cons q r =>
        rw [unquote_cons, if_neg]
        rintro ⟨hq, hlast⟩
        obtain ⟨text, rfl⟩ := List.getLast?_eq_some_iff.1 hlast
        exact h q text hq rfl
  · rintro rfl
    cases literal with
    | nil => exact .plain nofun
    | cons q r =>
      rw [unquote_cons]
      split
      · rename_i h
        obtain ⟨text, rfl⟩ := List.getLast?_eq_some_iff.1 h.2
        rw [List.dropLast_concat]
        exact .quoted h.1 text
      · rename_i h
        refine .plain fun q' text hq heq => h ?_
        rw [List.cons_append, List.cons.injEq] at heq
        obtain ⟨rfl, rfl⟩ := heq
        exact ⟨hq, List.getLast?_concat⟩

theorem IsLiteral.trimChars_eq {literal gap behind : List Char} (h : IsLiteral literal)
    (hgap : gap.all Text.isBlank = true) (hbehind : behind.all Text.isBlank = true) :
    Text.trimChars (gap ++ literal ++ behind) = literal :=
  Text.trimChars_append hgap hbehind h.ne_nil h.head h.last

theorem literal?_append {literal gap behind : List Char} (h : IsLiteral literal)
    (hgap : gap.all Text.isBlank = true) (hbehind : behind.all Text.isBlank = true) :
    literal? (gap ++ literal ++ behind) = some (unquote literal) := by
  unfold literal?
  simp only [h.trimChars_eq hgap hbehind]
  rw [if_neg]
  rintro (hnil | hline)
  · exact h.ne_nil hnil
  · exact h.one_line hline

theorem literal?_eq_some_iff {s text : List Char} : literal? s = some text ↔
    ∃ gap literal behind : List Char, gap.all Text.isBlank = true ∧ behind.all Text.isBlank = true ∧
      s = gap ++ literal ++ behind ∧ IsLiteral literal ∧ unquote literal = text := by
  constructor
  · intro h
    unfold literal? at h
    simp only at h
    split at h
    · cases h
    · rename_i hl
      cases h
      rw [not_or] at hl
      obtain ⟨gap, behind, hgap, hbehind, hs⟩ := Text.exists_trimChars s
      exact ⟨gap, _, behind, hgap, hbehind, hs,
        ⟨hl.1, fun _ => Text.head_trimChars, fun _ => Text.getLast_trimChars, hl.2⟩, rfl⟩
  · rintro ⟨gap, literal, behind, hgap, hbehind, rfl, hl, rfl⟩
    exact literal?_append hl hgap hbehind

/-! ## Operators and literals -/

/-- A text that is a spelling of an operator and a literal, with blanks around the literal. -/
structure Tail (s spelling : List Char) (operator : Operator) (literal : List Char) : Prop where
  mem : (spelling, operator) ∈ Operator.spellings
  isLiteral : IsLiteral literal
  text : ∃ gap behind : List Char, gap.all Text.isBlank = true ∧ behind.all Text.isBlank = true ∧
    s = spelling ++ (gap ++ literal ++ behind)

/-- What a spelling gives, tried at the front of a text. -/
def tried? (s : List Char) (p : List Char × Operator) : Option (Operator × List Char) :=
  (p.1.isPrefixOf? s).bind fun rest => (literal? rest).map fun l => (p.2, l)

theorem tried?_eq_some_iff {s spelling text : List Char} {operator operator' : Operator}
    (hmem : (spelling, operator') ∈ Operator.spellings) : tried? s (spelling, operator') = some (operator, text) ↔
      operator' = operator ∧ ∃ literal, Tail s spelling operator literal ∧ unquote literal = text := by
  unfold tried?
  simp only [Option.bind_eq_some_iff, Option.map_eq_some_iff, List.isPrefixOf?_eq_some_iff_append_eq,
    literal?_eq_some_iff, Prod.mk.injEq]
  constructor
  · rintro ⟨rest, hs, l, ⟨gap, literal, behind, hgap, hbehind, rfl, hl, rfl⟩, rfl, rfl⟩
    exact ⟨rfl, literal, ⟨hmem, hl, gap, behind, hgap, hbehind, hs.symm⟩, rfl⟩
  · rintro ⟨rfl, literal, ⟨-, hl, gap, behind, hgap, hbehind, hs⟩, rfl⟩
    exact ⟨_, hs.symm, _, ⟨gap, literal, behind, hgap, hbehind, rfl, hl, rfl⟩, rfl, rfl⟩

theorem Tail.spelling_prefix {s spelling literal : List Char} {operator : Operator} (h : Tail s spelling operator literal) :
    spelling <+: s := by
  obtain ⟨-, -, gap, behind, -, -, rfl⟩ := h
  exact List.prefix_append ..

theorem Tail.unique {s spelling spelling' literal literal' : List Char} {operator operator' : Operator}
    (h : Tail s spelling operator literal) (h' : Tail s spelling' operator' literal')
    (hlength : spelling'.length = spelling.length) :
    spelling' = spelling ∧ operator' = operator ∧ literal' = literal := by
  obtain ⟨hmem, hliteral, gap, behind, hgap, hbehind, hs⟩ := h
  obtain ⟨hmem', hliteral', gap', behind', hgap', hbehind', hs'⟩ := h'
  obtain ⟨rfl, hrest⟩ := List.append_inj (hs'.symm.trans hs) hlength
  have hoperator : ∀ p ∈ Operator.spellings, ∀ q ∈ Operator.spellings, p.1 = q.1 → p.2 = q.2 := by decide
  refine ⟨rfl, hoperator _ hmem' _ hmem rfl, ?_⟩
  rw [← hliteral'.trimChars_eq hgap' hbehind', hrest, hliteral.trimChars_eq hgap hbehind]

/-- No spelling begins with one that is tried before it. -/
theorem spellings_pairwise : Operator.spellings.Pairwise fun p q => ¬ p.1 <+: q.1 := by
  decide

/-- An operator and a literal of a text, the literal without its quotes, with a spelling that is not shorter than any
other one that leaves a literal. -/
def LongestTail (s : List Char) (operator : Operator) (text : List Char) : Prop :=
  ∃ spelling literal, Tail s spelling operator literal ∧ unquote literal = text ∧
    ∀ spelling' operator' literal', Tail s spelling' operator' literal' → spelling'.length ≤ spelling.length

theorem longestTail_of_tail? {s text : List Char} {operator : Operator} (h : tail? s = some (operator, text)) :
    LongestTail s operator text := by
  obtain ⟨earlier, ⟨spelling, found⟩, later, hsplit, hfound, hnone⟩ := List.findSome?_eq_some_iff.1 h
  have hmem : (spelling, found) ∈ Operator.spellings := by rw [hsplit]; simp
  obtain ⟨rfl, literal, htail, hunquote⟩ := (tried?_eq_some_iff hmem).1 hfound
  refine ⟨spelling, literal, htail, hunquote, fun spelling' operator' literal' htail' => ?_⟩
  have hmem' := htail'.mem
  rw [hsplit, List.mem_append, List.mem_cons] at hmem'
  rcases hmem' with hearlier | heq | hlater
  · have htried : tried? s (spelling', operator') = some (operator', unquote literal') :=
      (tried?_eq_some_iff htail'.mem).2 ⟨rfl, literal', htail', rfl⟩
    rw [show tried? s (spelling', operator') = none from hnone _ hearlier] at htried
    cases htried
  · cases heq
    exact Nat.le_refl _
  · -- of two spellings that the text begins with, one begins with the other
    have hpairwise := spellings_pairwise
    rw [hsplit, List.pairwise_append, List.pairwise_cons] at hpairwise
    rcases List.prefix_or_prefix_of_prefix htail.spelling_prefix htail'.spelling_prefix with hp | hp
    · exact absurd hp (hpairwise.2.1.1 _ hlater)
    · exact hp.length_le

theorem Tail.isSome {s spelling literal : List Char} {operator : Operator} (h : Tail s spelling operator literal) :
    (tail? s).isSome = true := by
  have htried : tried? s (spelling, operator) = some (operator, unquote literal) :=
    (tried?_eq_some_iff h.mem).2 ⟨rfl, literal, h, rfl⟩
  exact List.findSome?_isSome_iff.2 ⟨_, h.mem, Option.isSome_iff_exists.2 ⟨_, htried⟩⟩

theorem tail?_eq_some_iff {s text : List Char} {operator : Operator} :
    tail? s = some (operator, text) ↔ LongestTail s operator text := by
  refine ⟨longestTail_of_tail?, ?_⟩
  rintro ⟨spelling, literal, htail, rfl, hle⟩
  -- the spelling that is found is as long as this one, so it is this one
  obtain ⟨⟨operator', text⟩, hfound⟩ := Option.isSome_iff_exists.1 htail.isSome
  obtain ⟨spelling', literal', htail', rfl, hle'⟩ := longestTail_of_tail? hfound
  obtain ⟨rfl, rfl, rfl⟩ := htail.unique htail' (Nat.le_antisymm (hle _ _ _ htail') (hle' _ _ _ htail))
  exact hfound

/-! ## Readings -/

/-- A name, a spelling of an operator, the operator and a literal. -/
structure Reading where
  name : List Char
  spelling : List Char
  operator : Operator
  literal : List Char

namespace Reading

/-- A way to read a text: name, spelling and literal in this order, with blanks around each. -/
structure Of (r : Reading) (expression : List Char) : Prop where
  name : Text.IsName r.name
  spelling : (r.spelling, r.operator) ∈ Operator.spellings
  literal : IsLiteral r.literal
  text : ∃ before between gap behind : List Char, before.all Text.isBlank = true ∧
    between.all Text.isBlank = true ∧ gap.all Text.isBlank = true ∧ behind.all Text.isBlank = true ∧
    expression = before ++ r.name ++ between ++ r.spelling ++ gap ++ r.literal ++ behind

/-- A reading of a text with no shorter spelling than any other one. -/
structure Longest (r : Reading) (expression : List Char) : Prop where
  of : r.Of expression
  le : ∀ r' : Reading, r'.Of expression → r'.spelling.length ≤ r.spelling.length

theorem of_iff {r : Reading} {expression : List Char} : r.Of expression ↔
    ∃ s, nameAndTail? expression = some (r.name, s) ∧ Tail s r.spelling r.operator r.literal := by
  constructor
  · rintro ⟨hname, hmem, hliteral, before, between, gap, behind, hbefore, hbetween, hgap, hbehind, rfl⟩
    refine ⟨r.spelling ++ (gap ++ r.literal ++ behind), ?_, hmem, hliteral, gap, behind, hgap, hbehind, rfl⟩
    rw [← nameAndTail?_append hname hbefore hbetween (spelling_head hmem)]
    simp only [List.append_assoc]
  · rintro ⟨s, hs, hmem, hliteral, gap, behind, hgap, hbehind, htext⟩
    obtain ⟨⟨name, rest⟩, hname, heq⟩ := Option.map_eq_some_iff.1 hs
    cases heq
    obtain ⟨hname, hstart, -⟩ := Template.name?_eq_some_iff.1 hname
    refine ⟨hname, hmem, hliteral, expression.takeWhile Text.isBlank, rest.takeWhile Text.isBlank, gap, behind,
      Text.all_takeWhile_isBlank _, Text.all_takeWhile_isBlank _, hgap, hbehind, ?_⟩
    have hfirst := Text.takeWhile_append_trimStart expression
    have hnext := Text.takeWhile_append_trimStart rest
    rw [hstart] at hfirst
    rw [htext] at hnext
    conv => lhs; rw [← hfirst, ← hnext]
    simp only [List.append_assoc]

/-- All readings of a text have the same name, and those with spellings of the same length are the same. -/
theorem Of.unique {r r' : Reading} {expression : List Char} (h : r.Of expression) (h' : r'.Of expression) :
    r'.name = r.name ∧ (r'.spelling.length = r.spelling.length → r' = r) := by
  obtain ⟨s, hs, htail⟩ := of_iff.1 h
  obtain ⟨s', hs', htail'⟩ := of_iff.1 h'
  rw [hs] at hs'
  obtain ⟨hname, rfl⟩ := Prod.mk.inj (Option.some.inj hs')
  refine ⟨hname.symm, fun hlength => ?_⟩
  obtain ⟨hspelling, hoperator, hliteral⟩ := htail.unique htail' hlength
  obtain ⟨name, spelling, operator, literal⟩ := r
  obtain ⟨name', spelling', operator', literal'⟩ := r'
  simp only at hname hspelling hoperator hliteral
  rw [hname, hspelling, hoperator, hliteral]

end Reading

/-! ## Reading a text -/

theorem comparison?_eq_some_iff {s : List Char} {c : Comparison} : comparison? s = some c ↔
    ∃ (r : Reading) (text : List Char), r.Longest s ∧ StandsFor r.literal text ∧
      c = ⟨String.ofList r.name, r.operator, String.ofList text⟩ := by
  rw [comparison?_eq]
  simp only [Option.bind_eq_some_iff, Option.map_eq_some_iff]
  constructor
  · rintro ⟨⟨name, tail⟩, hs, ⟨operator, text⟩, htail?, rfl⟩
    obtain ⟨spelling, literal, htail, hunquote, hle⟩ := tail?_eq_some_iff.1 htail?
    refine ⟨⟨name, spelling, operator, literal⟩, text, ⟨Reading.of_iff.2 ⟨tail, hs, htail⟩, fun r' hr' => ?_⟩,
      standsFor_iff.2 hunquote, rfl⟩
    obtain ⟨tail', hs', htail'⟩ := Reading.of_iff.1 hr'
    rw [hs] at hs'
    cases hs'
    exact hle _ _ _ htail'
  · rintro ⟨r, text, hr, hstands, rfl⟩
    obtain ⟨tail, hs, htail⟩ := Reading.of_iff.1 hr.of
    refine ⟨(r.name, tail), hs, (r.operator, text), ?_, rfl⟩
    refine tail?_eq_some_iff.2 ⟨r.spelling, r.literal, htail, standsFor_iff.1 hstands, ?_⟩
    intro spelling operator literal htail'
    exact hr.le ⟨r.name, spelling, operator, literal⟩ (Reading.of_iff.2 ⟨tail, hs, htail'⟩)

/-- Where a text has a reading, it has one that the reader finds. -/
theorem Reading.Of.exists_comparison {r : Reading} {s : List Char} (h : r.Of s) : ∃ c, comparison? s = some c := by
  obtain ⟨tail, hs, htail⟩ := Reading.of_iff.1 h
  obtain ⟨found, hfound⟩ := Option.isSome_iff_exists.1 htail.isSome
  rw [comparison?_eq, hs, Option.bind_some, hfound]
  exact ⟨_, rfl⟩

/-- A text is read as a comparison exactly when it has a reading. All its readings have the same name, and there is
one for each length of the spelling; the comparison is that of the one with the longest spelling: its name, the
operator that is spelled, and what its literal stands for. A text without a reading is unreadable, and kept as it is. -/
theorem read_longest (expression : String) :
    ((∃ c, read expression = .comparison c) ↔ ∃ r : Reading, r.Of expression.toList) ∧
    (∀ r r' : Reading, r.Of expression.toList → r'.Of expression.toList →
      r'.name = r.name ∧ (r'.spelling.length = r.spelling.length → r' = r)) ∧
    (∀ c, read expression = .comparison c ↔ ∃ (r : Reading) (text : List Char), r.Longest expression.toList ∧
      StandsFor r.literal text ∧ c = ⟨String.ofList r.name, r.operator, String.ofList text⟩) ∧
    ((¬ ∃ r : Reading, r.Of expression.toList) → read expression = .unreadable expression) := by
  have hread (c : Comparison) : read expression = .comparison c ↔ _ :=
    read_eq_comparison_iff.trans comparison?_eq_some_iff
  refine ⟨⟨?_, ?_⟩, fun r r' h h' => h.unique h', hread, fun hnone => read_of_none ?_⟩
  · rintro ⟨c, hc⟩
    obtain ⟨r, text, hr, -, -⟩ := (hread c).1 hc
    exact ⟨r, hr.of⟩
  · rintro ⟨r, hr⟩
    obtain ⟨c, hc⟩ := hr.exists_comparison
    exact ⟨c, read_eq_comparison_iff.2 hc⟩
  · cases hc : comparison? expression.toList with
    | none => rfl
    | some c =>
      obtain ⟨r, text, hr, -, -⟩ := comparison?_eq_some_iff.1 hc
      exact absurd ⟨r, hr.of⟩ hnone

end Condition

end Dialogue
