/-
What the parts of a number in JSON text are read as: the digits before the point, those behind it and those of the
exponent. Digits of an integer in the range of integers are that integer. Any other parts are read as a double as long
as the first digits are not too many and the number is not too great; how many digits stand behind the point, or how
far down the exponent goes, does no harm.
-/
import Dialogue.Proofs.Json.Scaling

namespace Dialogue.Json

/-! ## Digits -/

variable {ds : List Char} {v : Nat}

theorem digitValue_le {c : Char} (h : c.isDigit = true) : digitValue c ≤ 9 := by
  have hle := (Char.isDigit_iff_toNat.1 h).2
  have hnine : '9'.toNat = '0'.toNat + 9 := rfl
  unfold digitValue
  omega

theorem foldl_digitValue (ds : List Char) (v : Nat) :
    ds.foldl (fun n c => n * 10 + digitValue c) v = Nat.ofDigitChars 10 ds v := by
  rw [Nat.ofDigitChars_eq_foldl]
  congr 1
  funext n c
  rw [Nat.mul_comm]
  rfl

theorem natOfDigits_toDigits (n : Nat) : natOfDigits (Nat.toDigits 10 n) = n :=
  (foldl_digitValue _ 0).trans Nat.ofDigitChars_ten_toDigits

theorem ofDigitChars_lt (h : ∀ c ∈ ds, c.isDigit = true) (v : Nat) :
    Nat.ofDigitChars 10 ds v < (v + 1) * 10 ^ ds.length := by
  induction ds generalizing v with
  | nil => rw [Nat.ofDigitChars_nil, List.length_nil, Nat.pow_zero, Nat.mul_one]; exact Nat.lt_succ_self v
  | cons c ds ih =>
    obtain ⟨hc, hds⟩ := List.forall_mem_cons.1 h
    have hdigit := digitValue_le hc
    rw [Nat.ofDigitChars_cons, List.length_cons, Nat.pow_succ']
    refine (ih hds _).trans_le ?_
    rw [← Nat.mul_assoc]
    refine Nat.mul_le_mul_right _ ?_
    unfold digitValue at hdigit
    omega

theorem le_ofDigitChars (ds : List Char) (v : Nat) : v ≤ Nat.ofDigitChars 10 ds v := by
  rw [Nat.ofDigitChars_eq_ofDigitChars_zero]
  have := Nat.le_mul_of_pos_left v (Nat.pow_pos (by decide : 0 < 10) (n := ds.length))
  omega

/-! ## Significands -/

/-- Digits whose value fits are all taken. -/
theorem foldl_push (h : Nat.ofDigitChars 10 ds v ≤ maxInteger) (taken : Nat) :
    ds.foldl Significand.push ⟨v, taken, 0⟩ = ⟨Nat.ofDigitChars 10 ds v, taken + ds.length, 0⟩ := by
  induction ds generalizing v taken with
  | nil => rfl
  | cons c ds ih =>
    have hnext : v * 10 + digitValue c = 10 * v + (c.toNat - '0'.toNat) := by rw [Nat.mul_comm]; rfl
    rw [Nat.ofDigitChars_cons, ← hnext] at h ⊢
    have hpush : Significand.push ⟨v, taken, 0⟩ c = ⟨v * 10 + digitValue c, taken + 1, 0⟩ :=
      if_pos ⟨rfl, (le_ofDigitChars ds _).trans h⟩
    rw [List.foldl_cons, hpush, ih h, List.length_cons, Nat.add_assoc, Nat.add_comm 1]

theorem foldl_push_toDigits {n : Nat} (hn : n ≤ maxInteger) :
    (Nat.toDigits 10 n).foldl Significand.push ⟨0, 0, 0⟩ = ⟨n, (Nat.toDigits 10 n).length, 0⟩ := by
  have hvalue : Nat.ofDigitChars 10 (Nat.toDigits 10 n) 0 = n := Nat.ofDigitChars_ten_toDigits
  rw [foldl_push (hvalue.le.trans hn), hvalue, Nat.zero_add]

theorem taken_le_foldl_push (ds : List Char) (s : Significand) : s.taken ≤ (ds.foldl Significand.push s).taken := by
  induction ds generalizing s with
  | nil => exact le_refl _
  | cons c ds ih =>
    refine le_trans ?_ (ih _)
    unfold Significand.push
    dsimp only
    split_ifs
    · exact Nat.le_succ _
    · exact le_refl _

/-- Some digits that fit are taken. -/
theorem taken_pos (hne : ds ≠ []) (hds : ∀ c ∈ ds, c.isDigit = true) (hv : v < 10 ^ 18) :
    0 < (ds.foldl Significand.push ⟨v, 0, 0⟩).taken := by
  obtain ⟨c, ds, rfl⟩ := List.exists_cons_of_ne_nil hne
  have hdigit := digitValue_le (hds c List.mem_cons_self)
  have hfits : v * 10 + digitValue c ≤ maxInteger := by
    unfold maxInteger
    have : Nat.pow 2 64 = 18446744073709551616 := rfl
    omega
  have hpush : Significand.push ⟨v, 0, 0⟩ c = ⟨v * 10 + digitValue c, 1, 0⟩ := if_pos ⟨rfl, hfits⟩
  rw [List.foldl_cons, hpush]
  exact taken_le_foldl_push ds ⟨_, 1, 0⟩

theorem push_le {s : Significand} (h : s.value ≤ maxInteger) (c : Char) : (s.push c).value ≤ maxInteger := by
  unfold Significand.push
  dsimp only
  split_ifs with hfits
  · exact hfits.2
  · exact h

theorem foldl_push_le (ds : List Char) {s : Significand} (h : s.value ≤ maxInteger) :
    (ds.foldl Significand.push s).value ≤ maxInteger := by
  induction ds generalizing s with
  | nil => exact h
  | cons c ds ih => exact ih (push_le h c)

/-- The digits that are taken make a small number. -/
theorem isSmall_foldl_push (whole fraction : List Char) :
    IsSmall (.ofInt .double
      (fraction.foldl Significand.push ⟨(whole.foldl Significand.push ⟨0, 0, 0⟩).value, 0, 0⟩).value) := by
  have hwhole : (Significand.mk (whole.foldl Significand.push ⟨0, 0, 0⟩).value 0 0).value ≤ maxInteger :=
    foldl_push_le whole (Nat.zero_le _)
  exact isSmall_ofInt ((foldl_push_le fraction hwhole).trans (by decide : maxInteger ≤ 2 ^ 64))

/-! ## The leaf of a number -/

/-- What a leaf of a number holds that is read as a finite double. -/
def IsDouble (s : Scalar) : Prop := ∃ x : Binary, s = .number (.double x) ∧ x.isFinite = true

theorem isDouble_signed (negative : Bool) {x : Binary} (hx : x.isFinite = true) :
    IsDouble (.number (.double (if negative then x.negate else x))) := by
  refine ⟨_, rfl, ?_⟩
  cases negative <;> cases x <;> first | rfl | cases hx

variable {negative : Bool} {whole fraction : List Char}

theorem isDouble_numberLeaf_none {s : Significand}
    (hs : fraction.foldl Significand.push ⟨(whole.foldl Significand.push ⟨0, 0, 0⟩).value, 0, 0⟩ = s)
    (h : ∃ y, scaled (.ofInt .double s.value) ((whole.foldl Significand.push ⟨0, 0, 0⟩).dropped - s.taken) 5 = some y ∧
      y.isFinite = true) :
    IsDouble (numberLeaf negative whole (some fraction) none) := by
  obtain ⟨y, hy, hfinite⟩ := h
  subst hs
  convert isDouble_signed negative hfinite using 1
  simp only [numberLeaf, Option.isNone_some, Bool.false_and, Bool.false_eq_true, if_false, Option.getD_some, hy]

theorem isDouble_numberLeaf_some {fraction : Option (List Char)} {s : Significand} {down : Bool} {e : Int}
    (hs : (fraction.getD []).foldl Significand.push ⟨(whole.foldl Significand.push ⟨0, 0, 0⟩).value, 0, 0⟩ = s)
    (he : writtenExponent down ds = some e)
    (h : ∃ y, scaled (.ofInt .double s.value)
      ((whole.foldl Significand.push ⟨0, 0, 0⟩).dropped - s.taken + e) 5 = some y ∧ y.isFinite = true) :
    IsDouble (numberLeaf negative whole fraction (some (down, ds))) := by
  obtain ⟨y, hy, hfinite⟩ := h
  subst hs
  convert isDouble_signed negative hfinite using 1
  simp only [numberLeaf, Option.isNone_some, Bool.and_false, Bool.false_and, Bool.false_eq_true, if_false, he, hy]

/-- Up to eighteen digits before the point are all taken. -/
theorem foldl_push_whole (hwhole : ∀ c ∈ whole, c.isDigit = true) (hlength : whole.length ≤ 18) :
    whole.foldl Significand.push ⟨0, 0, 0⟩ = ⟨Nat.ofDigitChars 10 whole 0, whole.length, 0⟩ ∧
      Nat.ofDigitChars 10 whole 0 < 10 ^ 18 := by
  have hlt := ofDigitChars_lt hwhole 0
  have hpow : 10 ^ whole.length ≤ 10 ^ 18 := Nat.pow_le_pow_right (by decide) hlength
  have hfits : Nat.ofDigitChars 10 whole 0 ≤ maxInteger := by
    have : 10 ^ 18 ≤ maxInteger := by decide
    omega
  refine ⟨?_, by omega⟩
  rw [foldl_push hfits, Nat.zero_add]

/-- A number with a point is read as a finite double. -/
theorem isDouble_fraction (hwhole : ∀ c ∈ whole, c.isDigit = true) (hlength : whole.length ≤ 18)
    (hne : fraction ≠ []) (hfraction : ∀ c ∈ fraction, c.isDigit = true) :
    IsDouble (numberLeaf negative whole (some fraction) none) := by
  obtain ⟨hpush, hlt⟩ := foldl_push_whole hwhole hlength
  refine isDouble_numberLeaf_none rfl (exists_scaled_of_neg (isSmall_foldl_push whole _) ?_ 5)
  have hpos := taken_pos hne hfraction hlt
  rw [hpush]
  dsimp only
  omega

/-- A number with a negative exponent is read as a double, and if the exponent is beyond any range then as zero. -/
theorem isDouble_down {fraction : Option (List Char)} (hwhole : ∀ c ∈ whole, c.isDigit = true)
    (hlength : whole.length ≤ 18) (hds : 0 < natOfDigits ds) :
    IsDouble (numberLeaf negative whole fraction (some (true, ds))) := by
  obtain ⟨hpush, -⟩ := foldl_push_whole hwhole hlength
  cases he : writtenExponent true ds with
  | none =>
    convert isDouble_signed negative (rfl : (Binary.zero .double).isFinite = true) using 1
    simp [numberLeaf, he]
  | some e =>
    have hneg : e < 0 := by
      unfold writtenExponent at he
      dsimp only at he
      split_ifs at he with hbig htrue
      · cases he
        omega
      · exact absurd rfl htrue
    refine isDouble_numberLeaf_some rfl he (exists_scaled_of_neg (isSmall_foldl_push whole _) ?_ 5)
    rw [hpush]
    dsimp only
    omega

/-- A number with another exponent is read as a double if its digits are not too many and not worth too much. -/
theorem isDouble_up {fraction : Option (List Char)} {n : Nat} (hdigits : whole ++ fraction.getD [] = ds)
    (hpos : 0 < Nat.ofDigitChars 10 ds 0) (hle : Nat.ofDigitChars 10 ds 0 ≤ 10 ^ 17)
    (h : (Nat.ofDigitChars 10 ds 0 : ℚ) * 10 ^ ((n : Int) - (fraction.getD []).length) ≤ greatest)
    (hn : n < 2 ^ 31) :
    IsDouble (numberLeaf negative whole fraction (some (false, Nat.toDigits 10 n))) := by
  have hfits : Nat.ofDigitChars 10 ds 0 ≤ maxInteger := hle.trans (by decide)
  have hsplit : Nat.ofDigitChars 10 ds 0 =
      Nat.ofDigitChars 10 (fraction.getD []) (Nat.ofDigitChars 10 whole 0) := by
    rw [← hdigits, Nat.ofDigitChars_append]
  have hpush : whole.foldl Significand.push ⟨0, 0, 0⟩ = ⟨Nat.ofDigitChars 10 whole 0, whole.length, 0⟩ := by
    rw [foldl_push ((le_ofDigitChars _ _).trans (hsplit ▸ hfits)), Nat.zero_add]
  have hexponent : writtenExponent false (Nat.toDigits 10 n) = some (n : Int) := by
    unfold writtenExponent
    rw [natOfDigits_toDigits]
    exact if_neg (Nat.not_le.2 hn)
  have hpush' : (fraction.getD []).foldl Significand.push ⟨Nat.ofDigitChars 10 whole 0, 0, 0⟩ =
      ⟨Nat.ofDigitChars 10 ds 0, (fraction.getD []).length, 0⟩ := by
    rw [foldl_push (hsplit ▸ hfits), ← hsplit, Nat.zero_add]
  refine isDouble_numberLeaf_some (s := ⟨_, _, 0⟩) (by rw [hpush]; exact hpush') hexponent ?_
  rw [hpush]
  dsimp only
  refine exists_scaled hpos hle ?_
  have : ((0 : Nat) : Int) - (fraction.getD []).length + n = n - (fraction.getD []).length := by omega
  rw [this]
  exact h

/-- An integer in the range of integers is read as it is. -/
theorem numberLeaf_integer {n : Nat} (hn : n ≤ maxInteger) :
    numberLeaf false (Nat.toDigits 10 n) none none = .number (.integer n) := by
  have hpush := foldl_push_toDigits hn
  simp [numberLeaf, hpush]

theorem numberLeaf_negative {n : Nat} (hpos : 0 < n) (hn : n ≤ 2 ^ 63) :
    numberLeaf true (Nat.toDigits 10 n) none none = .number (.integer (-n)) := by
  have hpush := foldl_push_toDigits (hn.trans (by decide : 2 ^ 63 ≤ maxInteger))
  simp [numberLeaf, hpush, hpos.ne', show n ≤ Nat.pow 2 63 from hn]

end Dialogue.Json
