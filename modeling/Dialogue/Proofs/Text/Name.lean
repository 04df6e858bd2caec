/-
Names between blanks. Blank characters and the characters of a name are apart, so a scan that skips blanks
stops in front of a name, and a scan that takes a name stops behind it.
-/
import Dialogue.Template
import Dialogue.Proofs.Text.Trim

namespace Dialogue

/-! ## Classes apart -/

namespace Text

/-- No character lies both in one of `as` and in one of `bs` when their ranges are pairwise apart. -/
theorem inRanges_apart {as bs : List (Nat × Nat)}
    (h : (as.all fun a => bs.all fun b => decide (a.2 < b.1) || decide (b.2 < a.1)) = true) {c : Char}
    (hc : inRanges as c = true) : inRanges bs c = false := by
  obtain ⟨a, ha, h1, h2⟩ := inRanges_eq_true_iff.1 hc
  rw [Bool.eq_false_iff]
  intro hb
  obtain ⟨b, hb, h3, h4⟩ := inRanges_eq_true_iff.1 hb
  have := List.all_eq_true.1 (List.all_eq_true.1 h a ha) b hb
  simp only [Bool.or_eq_true, decide_eq_true_eq] at this
  omega

theorem isBlank_toNat_le {c : Char} (h : isBlank c = true) (hc : c.toNat < 0x80) : c.toNat ≤ 0x20 := by
  obtain ⟨r, hr, h1, h2⟩ := inRanges_eq_true_iff.1 h
  simp only [blankRanges, List.mem_cons, List.not_mem_nil, or_false] at hr
  rcases hr with rfl | rfl | rfl | rfl | rfl | rfl | rfl | rfl | rfl | rfl <;> simp only at h1 h2 <;> omega

theorem isAlpha_toNat {c : Char} (h : c.isAlpha = true) :
    (65 ≤ c.toNat ∧ c.toNat ≤ 90) ∨ (97 ≤ c.toNat ∧ c.toNat ≤ 122) := by
  rcases Bool.or_eq_true_iff.1 h with h | h
  · exact .inl (of_decide_eq_true h)
  · obtain ⟨h1, h2⟩ := Bool.and_eq_true_iff.1 h
    exact .inr ⟨of_decide_eq_true h1, of_decide_eq_true h2⟩

theorem not_isAlphanum_of_toNat_le {c : Char} (h : c.toNat ≤ 0x20) : c.isAlphanum = false := by
  rw [Bool.eq_false_iff]
  intro hc
  rcases Bool.or_eq_true_iff.1 hc with hc | hc
  · have := isAlpha_toNat hc
    omega
  · have : 48 ≤ c.toNat := (Char.isDigit_iff_toNat.1 hc).1
    omega

theorem isWord_of_isBlank {c : Char} (h : isBlank c = true) : isWord c = false := by
  unfold isWord
  split
  · rename_i hc
    have hle := isBlank_toNat_le h hc
    rw [not_isAlphanum_of_toNat_le hle, Bool.false_or, beq_eq_false_iff_ne]
    rintro rfl
    exact absurd hle (by decide)
  · exact inRanges_apart (by decide +kernel) h

/-- A blank ends a name. -/
theorem continuesName_of_isBlank {c : Char} (h : isBlank c = true) : continuesName c = false := by
  unfold continuesName
  rw [isWord_of_isBlank h]
  have hne : ∀ d, isBlank d = false → (c == d) = false := by
    intro d hd
    rw [beq_eq_false_iff_ne]
    rintro rfl
    rw [h] at hd
    cases hd
  rw [hne '.' (by decide), hne '[' (by decide), hne ']' (by decide)]
  rfl

theorem isBlank_of_startsName {c : Char} (h : startsName c = true) : isBlank c = false := by
  rw [Bool.eq_false_iff]
  intro hb
  unfold startsName at h
  rcases Bool.or_eq_true_iff.1 h with h | h
  · have hrange := isAlpha_toNat h
    have hle := isBlank_toNat_le hb (by omega)
    omega
  · rw [beq_iff_eq] at h
    subst h
    exact absurd hb (by decide)

/-- A name ends in front of blanks, and where it ends without them. -/
theorem continuesName_head {blanks s : List Char} (h : blanks.all isBlank = true)
    (hs : ∀ c, s.head? = some c → continuesName c = false) :
    ∀ c, (blanks ++ s).head? = some c → continuesName c = false := by
  intro c hc
  cases blanks with
  | nil => exact hs c hc
  | cons d blanks =>
    cases hc
    exact continuesName_of_isBlank (List.all_eq_true.1 h c List.mem_cons_self)

namespace IsName

variable {s : List Char}

theorem isBlank_head (h : IsName s) (rest : List Char) : ∀ c, (s ++ rest).head? = some c → isBlank c = false := by
  obtain ⟨d, r, rfl, hd, -⟩ := h
  rintro c ⟨⟩
  exact isBlank_of_startsName hd

/-- No character of a name is blank. -/
theorem not_isBlank (h : IsName s) : ∀ c ∈ s, isBlank c = false := by
  obtain ⟨c, r, rfl, hc, hr⟩ := h
  intro d hd
  rcases List.mem_cons.1 hd with rfl | hd
  · exact isBlank_of_startsName hc
  · rw [Bool.eq_false_iff]
    intro hb
    exact Bool.eq_false_iff.1 (continuesName_of_isBlank hb) (List.all_eq_true.1 hr d hd)

/-- A name has nothing to trim. -/
theorem trim_eq {name : String} (h : IsName name.toList) : trim name = name := by
  unfold trim
  rw [trimChars_eq_self h.not_isBlank, String.ofList_toList]

theorem append {r : List Char} (h : IsName s) (hr : r.all continuesName = true) : IsName (s ++ r) := by
  obtain ⟨c, t, rfl, hc, ht⟩ := h
  exact ⟨c, t ++ r, rfl, hc, by rw [List.all_append, ht, hr]; rfl⟩

end IsName

end Text

/-! ## Taking a name -/

theorem Template.name?_append {name : List Char} (h : Text.IsName name) {rest : List Char}
    (hr : ∀ c, rest.head? = some c → Text.continuesName c = false) : name? (name ++ rest) = some (name, rest) := by
  obtain ⟨c, r, rfl, hc, hall⟩ := h
  have hpos : ∀ d ∈ r, Text.continuesName d = true := fun d hd => List.all_eq_true.1 hall d hd
  have hstop : rest.takeWhile Text.continuesName = [] ∧ rest.dropWhile Text.continuesName = rest := by
    cases rest with
    | nil => exact ⟨rfl, rfl⟩
    | cons d rest =>
      have := hr d rfl
      simp [this]
  rw [List.cons_append]
  simp only [name?]
  rw [if_pos hc, List.takeWhile_append_of_pos hpos, List.dropWhile_append_of_pos hpos, hstop.1, hstop.2,
    List.append_nil]

/-- What is taken is a name that cannot be longer. -/
theorem Template.name?_eq_some_iff {s name rest : List Char} : name? s = some (name, rest) ↔
    Text.IsName name ∧ s = name ++ rest ∧ ∀ c, rest.head? = some c → Text.continuesName c = false := by
  constructor
  · intro h
    cases s with
    | nil => cases h
    | cons c r =>
      simp only [name?] at h
      split at h
      · rename_i hc
        cases h
        refine ⟨⟨c, _, rfl, hc, List.all_takeWhile⟩, by simp, fun d hd => ?_⟩
        have := List.head?_dropWhile_not Text.continuesName r
        rw [hd] at this
        simpa using this
      · cases h
  · rintro ⟨hname, rfl, hrest⟩
    exact name?_append hname hrest

end Dialogue
