/-
Conditions without a literal. A text that breaks off behind its operator is unreadable when the operator is
`==`, `!=`, `>` or `<`. The other four spellings end in `=` behind a shorter operator, so the reader backs up
and takes that `=` for the literal: `score >=` reads as `score > "="`, and the report has nothing against it.
-/
import Dialogue.Proofs.Condition.Reading
import Dialogue.Proofs.Lint.Findings

namespace Dialogue

/-- The spellings that are not a shorter one with `=` behind it. -/
def Operator.whole : List (List Char) := [['=', '='], ['!', '='], ['>'], ['<']]

namespace Condition

/-! ## Behind the operator -/

variable {blanks : List Char}

theorem literal?_blanks (h : blanks.all Text.isBlank = true) : literal? blanks = none := by
  unfold literal?
  rw [Text.trimChars_eq_nil_iff.2 h]
  rfl

/-- A lone character is its own literal, even when it is a quote. -/
theorem literal?_cons {c : Char} (hc : Text.isBlank c = false) (h : blanks.all Text.isBlank = true) :
    literal? (c :: blanks) = some [c] := by
  have hne : '\n' ≠ c := by
    rintro rfl
    exact absurd hc (by decide)
  have htrim : Text.trimChars ([] ++ [c] ++ blanks) = [c] :=
    Text.trimChars_append rfl h nofun (by rintro d ⟨⟩; exact hc) (by rintro d ⟨⟩; exact hc)
  unfold literal?
  rw [show c :: blanks = [] ++ [c] ++ blanks from rfl, htrim]
  simp [hne, unquote]

theorem isPrefixOf?_blanks {c : Char} (hc : Text.isBlank c = false) (h : blanks.all Text.isBlank = true)
    (r : List Char) : (c :: r).isPrefixOf? blanks = none := by
  rw [Option.eq_none_iff_forall_ne_some]
  intro rest hrest
  rw [List.isPrefixOf?_eq_some_iff_append_eq] at hrest
  rw [← hrest, List.cons_append, List.all_cons, hc] at h
  cases h

theorem tail?_whole {spelling : List Char} (hs : spelling ∈ Operator.whole) (h : blanks.all Text.isBlank = true) :
    tail? (spelling ++ blanks) = none := by
  have heq := isPrefixOf?_blanks (c := '=') (by decide) h
  simp only [Operator.whole, List.mem_cons, List.not_mem_nil, or_false] at hs
  rcases hs with rfl | rfl | rfl | rfl <;>
    simp [tail?, Operator.spellings, List.isPrefixOf?, heq, literal?_blanks h]

/-- The reader backs up from a spelling to the shorter one and finds a literal there. -/
theorem tail?_backs_up {spelling : List Char} {operator : Operator} (hs : (spelling, operator) ∈ Operator.spellings)
    (hw : spelling ∉ Operator.whole) (h : blanks.all Text.isBlank = true) :
    ∃ shorter, (spelling.dropLast, shorter) ∈ Operator.spellings ∧ spelling = spelling.dropLast ++ ['='] ∧
      tail? (spelling ++ blanks) = some (shorter, ['=']) := by
  have hlit := literal?_cons (c := '=') (by decide) h
  -- spelling by spelling, in the order in which the reader tries them
  simp only [Operator.spellings, List.mem_cons, Prod.mk.injEq, List.not_mem_nil, or_false] at hs
  rcases hs with ⟨rfl, rfl⟩ | ⟨rfl, rfl⟩ | ⟨rfl, rfl⟩ | ⟨rfl, rfl⟩ | ⟨rfl, rfl⟩ | ⟨rfl, rfl⟩ | ⟨rfl, rfl⟩ | ⟨rfl, rfl⟩
  · exact ⟨.equal, by decide, rfl, by simp [tail?, Operator.spellings, List.isPrefixOf?, literal?_blanks h, hlit]⟩
  · exact ⟨.notEqual, by decide, rfl, by simp [tail?, Operator.spellings, List.isPrefixOf?, literal?_blanks h, hlit]⟩
  · exact absurd (by decide) hw
  · exact absurd (by decide) hw
  · exact ⟨.above, by decide, rfl, by simp [tail?, Operator.spellings, List.isPrefixOf?, literal?_blanks h, hlit]⟩
  · exact ⟨.below, by decide, rfl, by simp [tail?, Operator.spellings, List.isPrefixOf?, literal?_blanks h, hlit]⟩
  · exact absurd (by decide) hw
  · exact absurd (by decide) hw

/-! ## The whole text -/

/-- No order holds with `=`, which is not a number; equality with it is equality of texts. -/
theorem holds_equals_sign (name : String) (operator : Operator) (vars : Variables) :
    (Condition.comparison ⟨name, operator, "="⟩).holds vars = match operator with
      | .equal => vars.lookupText name == some "="
      | .notEqual => vars.lookupText name != some "="
      | _ => false := by
  have hnumber : number? "=" = none := by decide
  cases operator with
  | equal => exact holds_equal name "=" vars
  | notEqual => exact holds_notEqual name "=" vars
  | _ =>
    simp only [Condition.holds, Comparison.holds, hnumber]
    split
    · rename_i h
      cases h
    · rfl

/-! ## Without a literal -/

/-- A text that breaks off behind its operator, for every name and all blanks. With one of the four whole
spellings it is unreadable, holds nowhere, and is an error of every flow that branches on it. With one of the
other four it is the comparison with `=` by the shorter operator: `===` and `!==` then do decide branches, `>=`
and `<=` never hold, and no report has anything against any of them. -/
theorem read_without_literal {before name between spelling behind : List Char} {operator : Operator}
    (hname : Text.IsName name) (hbefore : before.all Text.isBlank = true) (hbetween : between.all Text.isBlank = true)
    (hbehind : behind.all Text.isBlank = true) (hs : (spelling, operator) ∈ Operator.spellings) :
    let expression := String.ofList (before ++ name ++ between ++ (spelling ++ behind))
    if spelling ∈ Operator.whole then
      read expression = .unreadable expression ∧ (∀ vars, (read expression).holds vars = false) ∧
        ∀ (flow : Flow) (node : Node) (target : String), node ∈ flow.nodes →
          .when expression target ∈ node.branches → .unreadableCondition node.id expression ∈ flow.errors
    else
      ∃ shorter, (spelling.dropLast, shorter) ∈ Operator.spellings ∧ spelling = spelling.dropLast ++ ['='] ∧
        read expression = .comparison ⟨String.ofList name, shorter, "="⟩ ∧
        (∀ vars : Variables, (read expression).holds vars = match shorter with
          | .equal => vars.lookupText (String.ofList name) == some "="
          | .notEqual => vars.lookupText (String.ofList name) != some "="
          | _ => false) ∧
        ∀ (flow : Flow) (node : String), .unreadableCondition node expression ∉ flow.findings := by
  intro expression
  have hcomparison := comparison?_append hname hbefore hbetween (spelling_head (s := behind) hs)
  have hchars : expression.toList = before ++ name ++ between ++ (spelling ++ behind) := String.toList_ofList
  rw [← hchars] at hcomparison
  split
  · rename_i hw
    rw [tail?_whole hw hbehind] at hcomparison
    have hread := read_of_none hcomparison
    refine ⟨hread, fun vars => by rw [hread]; rfl, ?_⟩
    intro flow node target hn hb
    exact Flow.unreadableCondition_mem hn hb (by rw [hread]; rfl)
  · rename_i hw
    obtain ⟨shorter, hmem, hspelling, htail⟩ := tail?_backs_up hs hw hbehind
    rw [htail] at hcomparison
    have hread := read_eq_comparison_iff.2 hcomparison
    refine ⟨shorter, hmem, hspelling, hread, fun vars => ?_, ?_⟩
    · rw [hread]
      exact holds_equals_sign _ _ vars
    · intro flow node hf
      have := Flow.isReadable_of_mem hf
      rw [hread] at this
      cases this

theorem read_without_literal_strictly_unequal :
    Text.IsName ['b'] ∧ ['\t'].all Text.isBlank = true ∧ [' '].all Text.isBlank = true ∧
      ['\n'].all Text.isBlank = true ∧ (['!', '=', '='], Operator.notEqual) ∈ Operator.spellings ∧
      read (String.ofList (['\t'] ++ ['b'] ++ [' '] ++ (['!', '=', '='] ++ ['\n']))) =
        .comparison ⟨String.ofList ['b'], .notEqual, "="⟩ := by
  have hname : Text.IsName ['b'] := ⟨'b', [], rfl, by decide, rfl⟩
  refine ⟨hname, by decide, by decide, by decide, by decide, ?_⟩
  obtain ⟨shorter, hmem, -, h, -⟩ := @read_without_literal ['\t'] ['b'] [' '] ['!', '=', '='] ['\n'] .notEqual hname
    (by decide) (by decide) (by decide) (by decide)
  have : shorter = .notEqual := by simpa [Operator.spellings] using hmem
  rw [← this]
  exact h

/-- `budget !==` is read as a comparison with `=`, holds where there is no budget, and no error is reported for
a flow that branches on it. -/
theorem readable_strictly_unequal :
    read "budget !==" = .comparison ⟨"budget", .notEqual, "="⟩ ∧ (read "budget !==").holds .empty = true ∧
      (((Flow.new "f").withNode ⟨"t", none, .trigger⟩).withNode
        ⟨"c", none, .condition [.when "budget !==" "t"]⟩).errors = [] := by
  decide +kernel

end Condition

end Dialogue
