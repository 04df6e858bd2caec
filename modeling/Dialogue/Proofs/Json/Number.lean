/-
The text of a number in JSON, cut into its parts: the digits before the point, those behind it and the exponent. A text
in which digits stand wherever they should, and no superfluous zero in front, is read as the leaf of its parts, whatever
stands behind it that could not belong to a number.
-/
import Dialogue.Proofs.Json.Leaf

namespace Dialogue.Json

variable {ds : List Char}

/-! ## The text of a number -/

/-- A number as it is written behind its sign: the digits before the point, those behind it, and the exponent with its
sign, as far as they are there. -/
structure NumberText where
  whole : List Char
  fraction : Option (List Char)
  exponent : Option (Bool × List Char)

/-- Some digits, and nothing but digits. -/
def AreDigits (ds : List Char) : Prop := ds ≠ [] ∧ ∀ c ∈ ds, c.isDigit = true

namespace AreDigits

variable {n : Nat}

theorem take (h : AreDigits ds) (hn : 0 < n) : AreDigits (ds.take n) :=
  ⟨by simp [h.1, hn.ne'], fun c hc => h.2 c (List.mem_of_mem_take hc)⟩

theorem drop (h : AreDigits ds) (hn : n < ds.length) : AreDigits (ds.drop n) :=
  ⟨by simpa using hn, fun c hc => h.2 c (List.mem_of_mem_drop hc)⟩

theorem append_zeros (h : AreDigits ds) (n : Nat) : AreDigits (ds ++ List.replicate n '0') := by
  refine ⟨by simp [h.1], fun c hc => ?_⟩
  rcases List.mem_append.1 hc with hc | hc
  · exact h.2 c hc
  · rw [List.eq_of_mem_replicate hc]
    rfl

theorem zeros_append (h : AreDigits ds) (n : Nat) : AreDigits (List.replicate n '0' ++ ds) := by
  refine ⟨by simp [h.1], fun c hc => ?_⟩
  rcases List.mem_append.1 hc with hc | hc
  · rw [List.eq_of_mem_replicate hc]
    rfl
  · exact h.2 c hc

end AreDigits

/-- A text that does not go on with what could belong to a number. -/
def Ends (rest : List Char) : Prop :=
  ∀ c, rest.head? = some c → c.isDigit = false ∧ c ≠ '.' ∧ c ≠ 'e' ∧ c ≠ 'E'

namespace NumberText

/-- The exponent as it is written. -/
def exponentChars (t : NumberText) : List Char := match t.exponent with
  | none => []
  | some (down, ds) => 'e' :: (if down then '-' else '+') :: ds

/-- The number as it is written. -/
def chars (t : NumberText) : List Char :=
  t.whole ++ (match t.fraction with
    | none => []
    | some ds => '.' :: ds) ++ t.exponentChars

/-- The leaf that the number is read as. -/
def leaf (t : NumberText) (negative : Bool) : Scalar := numberLeaf negative t.whole t.fraction t.exponent

/-- Digits stand wherever they should, and no superfluous zero in front. -/
structure Valid (t : NumberText) : Prop where
  whole : AreDigits t.whole
  noZero : t.whole.head? = some '0' → t.whole.length = 1
  fraction : ∀ ds, t.fraction = some ds → AreDigits ds
  exponent : ∀ down ds, t.exponent = some (down, ds) → AreDigits ds

end NumberText

/-- Digits end where something else begins. -/
theorem span_digits {rest : List Char} (hds : ∀ c ∈ ds, c.isDigit = true)
    (hrest : ∀ c, rest.head? = some c → c.isDigit = false) :
    (ds ++ rest).takeWhile Char.isDigit = ds ∧ (ds ++ rest).dropWhile Char.isDigit = rest := by
  have hstop : rest.takeWhile Char.isDigit = [] ∧ rest.dropWhile Char.isDigit = rest := by
    cases rest with
    | nil => exact ⟨rfl, rfl⟩
    | cons c rest =>
      have hc := ne_true_of_eq_false (hrest c rfl)
      exact ⟨List.takeWhile_cons_of_neg hc, List.dropWhile_cons_of_neg hc⟩
  rw [List.takeWhile_append_of_pos hds, List.dropWhile_append_of_pos hds, hstop.1, hstop.2, List.append_nil]
  exact ⟨rfl, rfl⟩

/-- What stands behind the whole digits of a number is no digit, and what stands behind its fraction no point. -/
theorem NumberText.head_exponentChars (t : NumberText) {rest : List Char} (hrest : Ends rest) {c : Char}
    (h : (t.exponentChars ++ rest).head? = some c) : c.isDigit = false ∧ c ≠ '.' := by
  unfold NumberText.exponentChars at h
  cases he : t.exponent with
  | none =>
    rw [he] at h
    exact ⟨(hrest c h).1, (hrest c h).2.1⟩
  | some e =>
    rw [he] at h
    cases h
    exact ⟨rfl, by decide⟩

/-- The end of a number, behind its fraction. -/
theorem number?_exponent (t : NumberText) (hexponent : ∀ down ds, t.exponent = some (down, ds) → AreDigits ds)
    {rest : List Char} (hrest : Ends rest) (negative : Bool) :
    (if (t.exponentChars ++ rest).head? = some 'e' ∨ (t.exponentChars ++ rest).head? = some 'E' then
        let (down, r) := match (t.exponentChars ++ rest).drop 1 with
          | '-' :: r => (true, r)
          | '+' :: r => (false, r)
          | r => (false, r)
        let ds := r.takeWhile Char.isDigit
        if ds = [] then none
        else some (numberLeaf negative t.whole t.fraction (some (down, ds)), r.dropWhile Char.isDigit)
      else some (numberLeaf negative t.whole t.fraction none, t.exponentChars ++ rest)) =
      some (t.leaf negative, rest) := by
  unfold NumberText.exponentChars NumberText.leaf
  cases he : t.exponent with
  | none =>
    rw [List.nil_append, if_neg]
    rintro (h | h)
    · exact (hrest _ h).2.2.1 rfl
    · exact (hrest _ h).2.2.2 rfl
  | some e =>
    obtain ⟨down, ds⟩ := e
    obtain ⟨hne, hds⟩ := hexponent down ds he
    obtain ⟨htake, hdrop⟩ := span_digits hds fun c hc => (hrest c hc).1
    rw [if_pos (.inl rfl)]
    cases down <;> simp only [List.cons_append, List.drop_succ_cons, List.drop_zero, Bool.false_eq_true, if_true,
      if_false, htake, hdrop, hne]

variable {t : NumberText} {rest : List Char}

theorem NumberText.Valid.whole_accepted (ht : t.Valid) :
    ¬ (t.whole = [] ∨ t.whole.head? = some '0' ∧ t.whole.length ≠ 1) := by
  rintro (h | ⟨h, hlength⟩)
  · exact ht.whole.1 h
  · exact hlength (ht.noZero h)

theorem number?_without_point (ht : t.Valid) (hf : t.fraction = none) (hrest : Ends rest) (negative : Bool) :
    number? negative (t.chars ++ rest) = some (t.leaf negative, rest) := by
  have htail := number?_exponent t ht.exponent hrest negative
  obtain ⟨htake, hdrop⟩ := span_digits ht.whole.2 fun c hc => (t.head_exponentChars hrest hc).1
  have hpoint : ∀ r, t.exponentChars ++ rest ≠ '.' :: r :=
    fun r hr => (t.head_exponentChars hrest (congrArg List.head? hr)).2 rfl
  rw [hf] at htail
  unfold NumberText.chars
  rw [hf, List.append_nil, List.append_assoc]
  unfold number?
  rw [htake, hdrop]
  dsimp only
  rw [if_neg ht.whole_accepted]
  split
  · rename_i heq
    split at heq
    · rename_i r hr
      exact absurd hr (hpoint r)
    · cases heq
  · rename_i heq
    split at heq
    · rename_i r hr
      exact absurd hr (hpoint r)
    · cases heq
      exact htail

theorem number?_with_point {fs : List Char} (ht : t.Valid) (hf : t.fraction = some fs) (hrest : Ends rest)
    (negative : Bool) : number? negative (t.chars ++ rest) = some (t.leaf negative, rest) := by
  obtain ⟨hne, hfs⟩ := ht.fraction fs hf
  have htail := number?_exponent t ht.exponent hrest negative
  have hpoint : ∀ c, ('.' :: fs ++ (t.exponentChars ++ rest)).head? = some c → c.isDigit = false := by
    intro c hc
    cases hc
    rfl
  obtain ⟨htake, hdrop⟩ := span_digits ht.whole.2 hpoint
  obtain ⟨hftake, hfdrop⟩ := span_digits hfs fun c hc => (t.head_exponentChars hrest hc).1
  rw [hf] at htail
  unfold NumberText.chars
  rw [hf, List.append_assoc, List.append_assoc]
  unfold number?
  rw [htake, hdrop]
  dsimp only
  rw [if_neg ht.whole_accepted, List.cons_append]
  simp only [hftake, hfdrop, hne, if_false]
  exact htail

/-- A number is read from its text, whatever stands behind it. -/
theorem number?_chars (ht : t.Valid) (hrest : Ends rest) (negative : Bool) :
    number? negative (t.chars ++ rest) = some (t.leaf negative, rest) := by
  cases hf : t.fraction with
  | none => exact number?_without_point ht hf hrest negative
  | some fs => exact number?_with_point ht hf hrest negative

end Dialogue.Json
