/-
Trimming between blanks. Of a text with blanks around it that neither begins nor ends with one itself, trimming
leaves just that text, and every text is what trimming leaves of it with blanks around.
-/
import Dialogue.Text.Blank

namespace Dialogue.Text

/-! ## Skipping blanks -/

theorem trimStart_append {blanks : List Char} (h : blanks.all isBlank = true) (s : List Char) :
    trimStart (blanks ++ s) = trimStart s :=
  List.dropWhile_append_of_pos fun c hc => List.all_eq_true.1 h c hc

theorem trimStart_cons {c : Char} (h : isBlank c = false) (s : List Char) : trimStart (c :: s) = c :: s := by
  unfold trimStart
  rw [List.dropWhile_cons_of_neg (ne_true_of_eq_false h)]

/-- Blanks are all that is skipped of a text that goes on with a character that is not blank, or ends. -/
theorem trimStart_append_of_head {blanks s : List Char} (h : blanks.all isBlank = true)
    (hs : ∀ c, s.head? = some c → isBlank c = false) : trimStart (blanks ++ s) = s := by
  rw [trimStart_append h]
  cases s with
  | nil => rfl
  | cons c s => exact trimStart_cons (hs c rfl) s

theorem takeWhile_append_of_head {blanks s : List Char} (h : blanks.all isBlank = true)
    (hs : ∀ c, s.head? = some c → isBlank c = false) : (blanks ++ s).takeWhile isBlank = blanks := by
  have hsplit := takeWhile_append_trimStart (blanks ++ s)
  rw [trimStart_append_of_head h hs] at hsplit
  exact List.append_cancel_right hsplit

theorem all_takeWhile_isBlank (s : List Char) : (s.takeWhile isBlank).all isBlank = true := List.all_takeWhile

/-! ## Trimming at both ends -/

theorem toList_trim (s : String) : (trim s).toList = trimChars s.toList := String.toList_ofList

/-- What is trimmed behind is blank. -/
theorem exists_trimEnd (s : List Char) : ∃ blanks : List Char, blanks.all isBlank = true ∧ s = trimEnd s ++ blanks := by
  refine ⟨(s.reverse.takeWhile isBlank).reverse, ?_, ?_⟩
  · rw [List.all_reverse, all_takeWhile_isBlank]
  · unfold trimEnd
    rw [← List.reverse_append, List.takeWhile_append_dropWhile, List.reverse_reverse]

theorem trimEnd_append_of_last {s blanks : List Char} (h : blanks.all isBlank = true)
    (hs : ∀ c, s.getLast? = some c → isBlank c = false) : trimEnd (s ++ blanks) = s := by
  have hstart : trimStart (blanks.reverse ++ s.reverse) = s.reverse :=
    trimStart_append_of_head (by rw [List.all_reverse, h]) (by rwa [List.head?_reverse])
  unfold trimEnd
  rw [List.reverse_append, show (blanks.reverse ++ s.reverse).dropWhile isBlank = s.reverse from hstart,
    List.reverse_reverse]

/-- What is left does not end with a blank. -/
theorem getLast_trimChars {s : List Char} {c : Char} (h : (trimChars s).getLast? = some c) : isBlank c = false := by
  unfold trimChars trimEnd at h
  rw [List.getLast?_reverse] at h
  obtain ⟨r, hr⟩ := List.head?_eq_some_iff.1 h
  exact head_trimStart hr

/-- What is left does not begin with a blank. -/
theorem head_trimChars {s : List Char} {c : Char} (h : (trimChars s).head? = some c) : isBlank c = false := by
  obtain ⟨r, hr⟩ := List.head?_eq_some_iff.1 h
  obtain ⟨blanks, -, hs⟩ := exists_trimEnd (trimStart s)
  rw [show trimEnd (trimStart s) = c :: r from hr] at hs
  exact head_trimStart hs

/-- A text is what trimming leaves, with blanks around it. -/
theorem exists_trimChars (s : List Char) : ∃ gap behind : List Char, gap.all isBlank = true ∧
    behind.all isBlank = true ∧ s = gap ++ trimChars s ++ behind := by
  obtain ⟨behind, hbehind, hs⟩ := exists_trimEnd (trimStart s)
  refine ⟨s.takeWhile isBlank, behind, all_takeWhile_isBlank s, hbehind, ?_⟩
  rw [List.append_assoc, show trimChars s ++ behind = trimStart s from hs.symm, takeWhile_append_trimStart]

/-- Trimming takes the blanks around a text that neither begins nor ends with one. -/
theorem trimChars_append {gap s behind : List Char} (hgap : gap.all isBlank = true)
    (hbehind : behind.all isBlank = true) (hne : s ≠ []) (hhead : ∀ c, s.head? = some c → isBlank c = false)
    (hlast : ∀ c, s.getLast? = some c → isBlank c = false) : trimChars (gap ++ s ++ behind) = s := by
  unfold trimChars
  have hstart : ∀ c, (s ++ behind).head? = some c → isBlank c = false := by
    obtain ⟨d, r, rfl⟩ := List.exists_cons_of_ne_nil hne
    exact hhead
  rw [List.append_assoc, trimStart_append_of_head hgap hstart, trimEnd_append_of_last hbehind hlast]

end Dialogue.Text
