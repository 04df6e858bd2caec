/-
Answers by label. An answer is tried on the choices of a question in their order, on the label of each, blanks
around and case aside, and on what the choice stores, exactly as it is. Where no two choices have the same label,
an answer that is the label of a choice takes that choice, unless one in front of it stores just the text of the
answer: then the answer stands for the one in front, and this text is stored.
-/
import Dialogue.Flow.Node
import Mathlib.Data.List.Nodup

namespace Dialogue

/-- The label of a choice without the blanks around it and in lower case, as answers are compared with it. -/
def Choice.foldedLabel (c : Choice) : String := Text.lower (Text.trim c.label)

namespace Question

variable {q : Question} {before after : List Choice} {c : Choice} {answer : String}

/-- With labels that differ, no choice in front of another one has its label. -/
theorem foldedLabel_ne (hlabels : (q.choices.map Choice.foldedLabel).Nodup) (hc : q.choices = before ++ c :: after) :
    ∀ b ∈ before, b.foldedLabel ≠ c.foldedLabel := by
  intro b hb heq
  rw [hc, List.map_append, List.map_cons, List.nodup_append] at hlabels
  exact hlabels.2.2 _ (List.mem_map_of_mem hb) _ List.mem_cons_self heq

/-- Where no two choices have the same label, blanks around and case aside, an answer that is the label of a choice
is resolved to what this choice stores, if none in front of it stores exactly the answer, whatever the choices
store besides; and if one does, the answer is stored as it is. -/
theorem resolve_of_label (hlabels : (q.choices.map Choice.foldedLabel).Nodup) (hc : q.choices = before ++ c :: after)
    (hanswer : Text.lower (Text.trim answer) = c.foldedLabel) :
    q.resolve answer = if answer ∈ before.map Choice.stored then answer else c.stored := by
  have hother : ∀ b ∈ before, (Text.lower (Text.trim b.label) == c.foldedLabel) = false :=
    fun b hb => beq_eq_false_iff_ne.2 (foldedLabel_ne hlabels hc b hb)
  unfold resolve
  simp only [hanswer]
  rw [hc, List.find?_append]
  -- a choice in front has another label, so it can take the answer only by what it stores
  cases hfirst : before.find? fun b => Text.lower (Text.trim b.label) == c.foldedLabel || b.stored == answer with
  | some b =>
    have hb : b ∈ before := List.mem_of_find?_eq_some hfirst
    have htaken := List.find?_some hfirst
    rw [hother b hb, Bool.false_or, beq_iff_eq] at htaken
    rw [if_pos (List.mem_map.2 ⟨b, hb, htaken⟩)]
    exact htaken
  | none =>
    have hnot : answer ∉ before.map Choice.stored := by
      intro h
      obtain ⟨b, hb, hstored⟩ := List.mem_map.1 h
      have := List.find?_eq_none.1 hfirst b hb
      simp [hstored] at this
    rw [if_neg hnot, Option.none_or, List.find?_cons_of_pos]
    simp [Choice.foldedLabel]

/-- A label in other letters and behind another choice. -/
theorem resolve_of_label_yes :
    let q : Question := ⟨"¿Te interesa?", "interest", [⟨"No", "no"⟩, ⟨" Sí", "yes"⟩, ⟨"Tal vez", ""⟩]⟩
    (q.choices.map Choice.foldedLabel).Nodup ∧ q.choices = [⟨"No", "no"⟩] ++ ⟨" Sí", "yes"⟩ :: [⟨"Tal vez", ""⟩] ∧
      Text.lower (Text.trim "SÍ ") = Choice.foldedLabel ⟨" Sí", "yes"⟩ ∧ q.resolve "SÍ " = "yes" := by
  intro q
  have hlabels : (q.choices.map Choice.foldedLabel).Nodup := by decide +kernel
  have hanswer : Text.lower (Text.trim "SÍ ") = Choice.foldedLabel ⟨" Sí", "yes"⟩ := by decide +kernel
  have hc : q.choices = [⟨"No", "no"⟩] ++ ⟨" Sí", "yes"⟩ :: [⟨"Tal vez", ""⟩] := rfl
  exact ⟨hlabels, hc, hanswer, (resolve_of_label hlabels hc hanswer).trans (by decide +kernel)⟩

/-- The second choice has the answer for its label, and the first one, which stores it, is taken. -/
theorem resolve_label_shadowed :
    let q : Question := ⟨"How many rooms?", "rooms", [⟨"Two or more", "2"⟩, ⟨"2", "exactly 2"⟩]⟩
    (q.choices.map Choice.foldedLabel).Nodup ∧ ⟨"2", "exactly 2"⟩ ∈ q.choices ∧
      Text.lower (Text.trim "2") = Choice.foldedLabel ⟨"2", "exactly 2"⟩ ∧
      q.resolve "2" = "2" ∧ q.resolve "2" ≠ Choice.stored ⟨"2", "exactly 2"⟩ := by
  decide +kernel

end Question

end Dialogue
