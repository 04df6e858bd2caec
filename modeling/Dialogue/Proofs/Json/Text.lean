/-
Texts in quotes are read as they were written. Whatever a character is escaped as, the reader takes it back in one
step, and no escaped character is the closing quote.
-/
import Dialogue.Json.Print
import Dialogue.Json.Read
import Mathlib.Tactic.SplitIfs

namespace Dialogue.Json

/-- A control character is escaped by the four digits of its number. -/
theorem hex4?_controlEscape {n : Nat} (hn : n < 32) :
    ∃ a b c d, controlEscape (Char.ofNat n) = ['u', a, b, c, d] ∧ hex4? a b c d = some n := by
  have htable : ∀ n < 32, controlEscape (Char.ofNat n) = ['u', '0', '0', (n / 16).digitChar, (n % 16).digitChar] ∧
      hex4? '0' '0' (n / 16).digitChar (n % 16).digitChar = some n := by decide +kernel
  exact ⟨_, _, _, _, htable n hn⟩

theorem textFrom?_escapedChar (c : Char) (read : List Char) (n : Nat) (rest : List Char) :
    textFrom? read true (n + 1) (escapedChar c ++ rest) = textFrom? (c :: read) true n rest := by
  unfold escapedChar
  split_ifs with hquote hslash hn hr ht hb hf hcontrol
  · subst hquote
    simp [textFrom?, shortEscape?]
  · subst hslash
    simp [textFrom?, shortEscape?]
  · subst hn
    simp [textFrom?, shortEscape?]
  · subst hr
    simp [textFrom?, shortEscape?]
  · subst ht
    simp [textFrom?, shortEscape?]
  · obtain rfl : c = '\x08' := by rw [← Char.ofNat_toNat c, hb]
    simp [textFrom?, shortEscape?]
  · obtain rfl : c = '\x0c' := by rw [← Char.ofNat_toNat c, hf]
    simp [textFrom?, shortEscape?]
  · obtain ⟨a, b, x, d, hescape, hhex⟩ := hex4?_controlEscape hcontrol
    rw [Char.ofNat_toNat] at hescape
    -- a control character is no half of a surrogate pair
    have hhigh : ¬ (0xD800 ≤ c.toNat ∧ c.toNat < 0xDC00) := by omega
    have hlow : ¬ (0xDC00 ≤ c.toNat ∧ c.toNat < 0xE000) := by omega
    simp [hescape, textFrom?, hhex, hhigh, hlow]
  · simp [textFrom?, hslash, hcontrol]

/-- A text is read up to its closing quote. -/
theorem textFrom?_text (cs read : List Char) {n : Nat} (hn : cs.length < n) (rest : List Char) :
    textFrom? read true n (cs.flatMap escapedChar ++ '"' :: rest) =
      some (.text (String.ofList (read.reverse ++ cs)), rest) := by
  induction cs generalizing read n with
  | nil =>
    obtain ⟨n, rfl⟩ : ∃ k, n = k + 1 := ⟨n - 1, by simp at hn; omega⟩
    simp [textFrom?]
  | cons c cs ih =>
    obtain ⟨n, rfl⟩ : ∃ k, n = k + 1 := ⟨n - 1, by simp at hn; omega⟩
    rw [List.flatMap_cons, List.append_assoc, textFrom?_escapedChar, ih _ (by simpa using hn), List.reverse_cons,
      List.append_assoc, List.singleton_append]

theorem length_le_flatMap_escapedChar (cs : List Char) : cs.length ≤ (cs.flatMap escapedChar).length := by
  induction cs with
  | nil => exact Nat.le_refl _
  | cons c cs ih =>
    have hpos : 1 ≤ (escapedChar c).length := by
      unfold escapedChar
      split_ifs <;> simp
    rw [List.flatMap_cons, List.length_append, List.length_cons]
    omega

/-- A text in quotes is read from behind its opening quote. -/
theorem textFrom?_toList (s : String) {size : Nat} (hsize : (text s).toList.length ≤ size) (rest : List Char) :
    ∃ r, (text s).toList = '"' :: r ∧ textFrom? [] true size (r ++ rest) = some (.text s, rest) := by
  have hlist : (text s).toList = '"' :: (s.toList.flatMap escapedChar ++ ['"']) := String.toList_ofList
  refine ⟨_, hlist, ?_⟩
  have hle := length_le_flatMap_escapedChar s.toList
  rw [hlist, List.length_cons, List.length_append] at hsize
  rw [List.append_assoc, List.singleton_append, textFrom?_text _ _ (by omega), List.reverse_nil, List.nil_append,
    String.ofList_toList]

end Dialogue.Json
