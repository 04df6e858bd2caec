/-
Blank characters and trimming. A character is blank when it has the Unicode property White_Space;
the same property decides what a path, a keyword, a condition and a placeholder may have around
their parts, so it stands here once.
-/
import Dialogue.Text.Ranges

namespace Dialogue.Text

/-- The characters with the property White_Space. -/
def blankRanges : List (Nat × Nat) := [
  (0x9, 0xD), (0x20, 0x20), (0x85, 0x85), (0xA0, 0xA0), (0x1680, 0x1680), (0x2000, 0x200A),
  (0x2028, 0x2029), (0x202F, 0x202F), (0x205F, 0x205F), (0x3000, 0x3000)]

/-- Whether a character is white space. -/
def isBlank (c : Char) : Bool := inRanges blankRanges c

/-! ## Trimming -/

/-- A text without the blanks it starts with. -/
def trimStart (s : List Char) : List Char := s.dropWhile isBlank

/-- A text without the blanks it ends with. -/
def trimEnd (s : List Char) : List Char := (s.reverse.dropWhile isBlank).reverse

/-- A text without the blanks around it. -/
def trimChars (s : List Char) : List Char := trimEnd (trimStart s)

/-- A string without the blanks around it. -/
def trim (s : String) : String := String.ofList (trimChars s.toList)

/-- Whether a string has no character that is not blank. -/
def isBlankText (s : String) : Bool := s.toList.all isBlank

/-- A text is its blanks in front and the rest. -/
theorem takeWhile_append_trimStart (s : List Char) : s.takeWhile isBlank ++ trimStart s = s :=
  List.takeWhile_append_dropWhile

/-- What is trimmed in front does not start with a blank. -/
theorem head_trimStart {s : List Char} {c : Char} {r : List Char} (h : trimStart s = c :: r) :
    isBlank c = false := by
  have := List.head_dropWhile_not isBlank (l := s) (by unfold trimStart at h; simp [h])
  unfold trimStart at h
  simpa [h] using this

theorem trimStart_eq_nil_iff {s : List Char} : trimStart s = [] ↔ s.all isBlank = true := by
  unfold trimStart
  induction s with
  | nil => simp
  | cons c r ih => by_cases h : isBlank c = true <;> simp_all

theorem trimChars_eq_nil_iff {s : List Char} : trimChars s = [] ↔ s.all isBlank = true := by
  constructor
  · intro h
    cases hs : trimStart s with
    | nil => exact trimStart_eq_nil_iff.1 hs
    | cons c r =>
      have hc := head_trimStart hs
      have h' : trimStart (r.reverse ++ [c]) = [] := by
        have h' : trimEnd (c :: r) = [] := hs ▸ h
        simpa [trimEnd, trimStart] using h'
      have := trimStart_eq_nil_iff.1 h'
      simp [hc] at this
  · intro h
    simp [trimChars, trimStart_eq_nil_iff.2 h, trimEnd]

/-- A text with no blank in it has none to lose. -/
theorem trimChars_eq_self {s : List Char} (h : ∀ c ∈ s, isBlank c = false) : trimChars s = s := by
  have hkept : ∀ r : List Char, (∀ c ∈ r, isBlank c = false) → r.dropWhile isBlank = r := by
    intro r hr
    cases r with
    | nil => rfl
    | cons c r => rw [List.dropWhile_cons_of_neg (ne_true_of_eq_false (hr c (List.mem_cons_self ..)))]
  unfold trimChars trimStart trimEnd
  rw [hkept s h, hkept s.reverse fun c hc => h c (List.mem_reverse.1 hc), List.reverse_reverse]

/-- What trimming leaves stands somewhere in the text. -/
theorem trimChars_infix (s : List Char) : trimChars s <:+: s := by
  have hstart : trimStart s <:+ s := List.dropWhile_suffix isBlank
  have hend : trimEnd (trimStart s) <+: trimStart s := by
    unfold trimEnd
    rw [← List.reverse_suffix, List.reverse_reverse]
    exact List.dropWhile_suffix isBlank
  exact hend.isInfix.trans hstart.isInfix

end Dialogue.Text
