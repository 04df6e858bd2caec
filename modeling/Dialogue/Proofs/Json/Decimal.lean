/-
The digits of finite numbers as JSON text. The shortest decimal of a double is worth no more than the greatest double,
or half a unit more if it is not the greatest double itself, and so its digits are always read as some double: a number
in the range of its type is never written as digits that are refused.
-/
import Dialogue.Json.Print
import Dialogue.Proofs.Json.Number
import Dialogue.Proofs.Number.Shortest

namespace Dialogue.Json

variable {m d : Nat} {e k low high : Int} {negative : Bool} {f : FloatFormat}

/-! ## The greatest decimals -/

theorem greatest_eq : (greatest : ℚ) = (2 ^ 53 - 1) * 2 ^ (971 : Int) := by
  have hpow : ((2 ^ 53 - 1 : Nat) : ℚ) = 2 ^ 53 - 1 := by norm_num
  unfold greatest
  rw [Nat.cast_mul, hpow, Nat.cast_pow, Nat.cast_ofNat]
  rfl

/-- Half a unit above a double or single is no more than the greatest double, unless it is the greatest double
itself. -/
theorem half_above_le_greatest (h : e ≤ 970 ∧ m < 2 ^ 53 ∨ e = 971 ∧ m + 1 < 2 ^ 53) :
    ((m : ℚ) + 1 / 2) * 2 ^ e ≤ greatest := by
  rw [greatest_eq]
  rcases h with ⟨he, hm⟩ | ⟨rfl, hm⟩
  · have hm' : (m : ℚ) + 1 ≤ 2 ^ 53 := by exact_mod_cast hm
    calc ((m : ℚ) + 1 / 2) * 2 ^ e ≤ 2 ^ 53 * 2 ^ (970 : Int) := by
          refine mul_le_mul (by linarith) (zpow_le_zpow_right₀ (by norm_num) he) (Binary.two_zpow_pos e).le ?_
          norm_num
      _ = 2 ^ 52 * 2 ^ (971 : Int) := by
          rw [show (971 : Int) = 1 + 970 by norm_num, zpow_add₀ (by norm_num), ← mul_assoc]
          norm_num
      _ ≤ (2 ^ 53 - 1) * 2 ^ (971 : Int) := mul_le_mul_of_nonneg_right (by norm_num) (Binary.two_zpow_pos _).le
  · have hm' : (m : ℚ) + 1 + 1 ≤ 2 ^ 53 := by exact_mod_cast hm
    exact mul_le_mul_of_nonneg_right (by linarith) (Binary.two_zpow_pos _).le

/-- The shortest decimal of the greatest double is no greater. -/
theorem decimal_greatest : Shortest.decimal .even .double (2 ^ 53 - 1) 971 = (17976931348623157, 292) := by
  decide +kernel

/-- The shortest decimal of a finite double or single. -/
theorem decimal_spec (hf : f = .double ∨ f = .single) (hm : 0 < m)
    (hfits : (Binary.finite negative m e).Fits f) (h : Shortest.decimal .even f m e = (d, k)) :
    (d = 0 ∧ k = 0) ∨ (0 < d ∧ (d : ℚ) * 10 ^ k ≤ greatest ∧ (10 ≤ (d : ℚ) * 10 ^ k → d ≤ 10 ^ 17)) := by
  refine (Shortest.decimal_spec hm h).imp_right fun ⟨hpos, habove, hfew⟩ => ⟨hpos, ?_, fun hten => hfew ?_⟩
  · obtain ⟨hbits, hleast, hexponent⟩ := hfits
    rcases hf with rfl | rfl
    · by_cases hlast : e = 971 ∧ m = 2 ^ 53 - 1
      · obtain ⟨rfl, rfl⟩ := hlast
        rw [decimal_greatest] at h
        cases h
        have hle : 17976931348623157 * 10 ^ 292 ≤ greatest := by decide +kernel
        exact_mod_cast hle
      · refine habove.trans (half_above_le_greatest ?_)
        unfold FloatFormat.double at hbits hexponent
        dsimp only at hbits hexponent
        omega
    · refine habove.trans (half_above_le_greatest (.inl ?_))
      unfold FloatFormat.single at hbits hexponent
      dsimp only at hbits hexponent
      omega
  · -- half a unit is at most half the number
    have hone : (1 : ℚ) ≤ m := by exact_mod_cast hm
    have htwo := Binary.two_zpow_pos e
    nlinarith

/-! ## Decimals -/

theorem areDigits_toDigits (n : Nat) : AreDigits (Nat.toDigits 10 n) :=
  ⟨Nat.toDigits_ne_nil, fun _ hc => Nat.isDigit_of_mem_toDigits (by decide) (by decide) hc⟩

theorem head?_toDigits {n : Nat} (hn : 0 < n) : (Nat.toDigits 10 n).head? ≠ some '0' := by
  induction n using Nat.strongRecOn with
  | ind n ih =>
    rw [Nat.toDigits_eq_if (by decide)]
    split_ifs with hlt
    · have : ∀ n < 10, 0 < n → n.digitChar ≠ '0' := by decide
      simpa using this n hlt hn
    · rw [List.head?_append_of_ne_nil _ Nat.toDigits_ne_nil]
      exact ih (n / 10) (by omega) (by omega)

theorem pow_le_of_toDigits {n : Nat} (hn : 0 < n) : 10 ^ ((Nat.toDigits 10 n).length - 1) ≤ n := by
  rcases Nat.eq_zero_or_pos ((Nat.toDigits 10 n).length - 1) with hzero | hpos
  · rw [hzero]
    exact hn
  · by_contra hlt
    have := (Nat.length_toDigits_le_iff (by decide) hpos).2 (Nat.lt_of_not_le hlt)
    omega

namespace NumberText

/-- The parts in which `digits · 10 ^ k` is written in a style that is positional from `10 ^ low` to below
`10 ^ (high + 1)`. -/
def ofDecimal (low high : Int) (digits : List Char) (k : Int) : NumberText :=
  let s : Int := k + digits.length - 1
  if low ≤ s ∧ s ≤ high then
    if 0 ≤ k then ⟨digits ++ List.replicate k.toNat '0', some ['0'], none⟩
    else if 0 ≤ s then ⟨digits.take (s + 1).toNat, some (digits.drop (s + 1).toNat), none⟩
    else ⟨['0'], some (List.replicate (-s - 1).toNat '0' ++ digits), none⟩
  else
    ⟨digits.take 1, if digits.length = 1 then none else some (digits.drop 1),
      some (decide (s < 0), Nat.toDigits 10 s.natAbs)⟩

theorem toList_write (tie : Tie) (digits : List Char) (k : Int) :
    (DecimalStyle.write ⟨some (low, high), true, true, tie⟩ digits k).toList =
      (ofDecimal low high digits k).chars := by
  unfold DecimalStyle.write ofDecimal
  dsimp only
  generalize k + digits.length - 1 = s
  by_cases hrange : low ≤ s ∧ s ≤ high
  · have hdecide : (decide (low ≤ s) && decide (s ≤ high)) = true := by simpa using hrange
    rw [if_pos hdecide, if_pos hrange, if_pos rfl]
    split_ifs <;> simp [chars, exponentChars]
  · have hdecide : ¬ (decide (low ≤ s) && decide (s ≤ high)) = true := by simpa using hrange
    rw [if_neg hdecide, if_neg hrange]
    unfold chars exponentChars
    by_cases hone : digits.length = 1 <;> by_cases hs : s < 0 <;> simp [hone, hs]

variable {digits : List Char}

theorem valid_ofDecimal (hdigits : AreDigits digits) (hzero : digits.head? = some '0' → digits.length = 1 ∧ k = 0) :
    (ofDecimal low high digits k).Valid := by
  have hlength : 0 < digits.length := List.length_pos_iff.2 hdigits.1
  have hsome {ds es : List Char} (hds : AreDigits ds) (h : some ds = some es) : AreDigits es := by
    cases h
    exact hds
  unfold ofDecimal
  dsimp only
  split_ifs with hrange hk hs hone
  · refine ⟨hdigits.append_zeros _, ?_, fun ds => hsome (areDigits_toDigits 0), nofun⟩
    intro h
    rw [List.head?_append_of_ne_nil _ hdigits.1] at h
    obtain ⟨hone, rfl⟩ := hzero h
    simpa using hone
  · refine ⟨hdigits.take (by omega), ?_, fun ds => hsome (hdigits.drop (by omega)), nofun⟩
    intro h
    rw [List.head?_take, if_neg (by omega)] at h
    have := (hzero h).2
    omega
  · exact ⟨areDigits_toDigits 0, fun _ => rfl, fun ds => hsome (hdigits.zeros_append _), nofun⟩
  · refine ⟨hdigits.take Nat.one_pos, fun _ => by simp; omega, nofun, ?_⟩
    rintro down ds ⟨⟩
    exact areDigits_toDigits _
  · refine ⟨hdigits.take Nat.one_pos, fun _ => by simp; omega, fun ds => hsome (hdigits.drop (by omega)), ?_⟩
    rintro down ds ⟨⟩
    exact areDigits_toDigits _

/-- What is written with a point and no exponent is read as a double. -/
theorem isDouble_positional (hdigits : AreDigits digits) (hhigh : high ≤ 17)
    (hrange : low ≤ k + digits.length - 1 ∧ k + digits.length - 1 ≤ high) (negative : Bool) :
    IsDouble ((ofDecimal low high digits k).leaf negative) := by
  have hlength : 0 < digits.length := List.length_pos_iff.2 hdigits.1
  unfold ofDecimal leaf
  dsimp only
  rw [if_pos hrange]
  split_ifs with hk hs
  · refine isDouble_fraction (hdigits.append_zeros _).2 ?_ (areDigits_toDigits 0).1 (areDigits_toDigits 0).2
    rw [List.length_append, List.length_replicate]
    omega
  · obtain ⟨hne, hfraction⟩ := hdigits.drop (n := (k + digits.length - 1 + 1).toNat) (by omega)
    refine isDouble_fraction (hdigits.take (by omega)).2 ?_ hne hfraction
    rw [List.length_take]
    omega
  · obtain ⟨hne, hfraction⟩ := hdigits.zeros_append (-(k + digits.length - 1) - 1).toNat
    exact isDouble_fraction (areDigits_toDigits 0).2 (by simp) hne hfraction

/-- A decimal is worth its first digit at least. -/
theorem pow_le_decimal {d : Nat} (hd : 0 < d) (k : Int) :
    (10 : ℚ) ^ (k + (Nat.toDigits 10 d).length - 1) ≤ d * 10 ^ k := by
  have hlength : 0 < (Nat.toDigits 10 d).length := Nat.length_toDigits_pos
  have hexponent : k + (Nat.toDigits 10 d).length - 1 = ((Nat.toDigits 10 d).length - 1 : Nat) + k := by omega
  rw [hexponent, zpow_add₀ (by norm_num), zpow_natCast]
  refine mul_le_mul_of_nonneg_right ?_ (Shortest.ten_zpow_pos k).le
  exact_mod_cast pow_le_of_toDigits hd

/-- What is written with an exponent is read as a double if it is not too great, and has not too many digits unless
the exponent is negative. -/
theorem isDouble_scientific {d : Nat} (hd : 0 < d) (hle : (d : ℚ) * 10 ^ k ≤ greatest)
    (hfew : 10 ≤ (d : ℚ) * 10 ^ k → d ≤ 10 ^ 17) {s : Int} (hs : k + (Nat.toDigits 10 d).length - 1 = s)
    (hne : s ≠ 0) (negative : Bool) :
    IsDouble (numberLeaf negative ((Nat.toDigits 10 d).take 1)
      (if (Nat.toDigits 10 d).length = 1 then none else some ((Nat.toDigits 10 d).drop 1))
      (some (decide (s < 0), Nat.toDigits 10 s.natAbs))) := by
  have hlength : 0 < (Nat.toDigits 10 d).length := Nat.length_toDigits_pos
  have hfirst : (10 : ℚ) ^ s ≤ d * 10 ^ k := hs ▸ pow_le_decimal hd k
  rcases lt_or_ge s 0 with hneg | hs0
  · rw [decide_eq_true hneg]
    refine isDouble_down ((areDigits_toDigits d).take Nat.one_pos).2 ?_ ?_
    · rw [List.length_take]
      omega
    · rw [natOfDigits_toDigits]
      omega
  · obtain ⟨n, rfl⟩ := Int.eq_ofNat_of_zero_le hs0
    rw [zpow_natCast] at hfirst
    have hn : n < 2 ^ 31 := by
      have := le_of_pow_le_greatest (by exact_mod_cast hfirst.trans hle)
      omega
    have hten : (10 : ℚ) ≤ d * 10 ^ k := (le_self_pow₀ (by norm_num) (by omega)).trans hfirst
    have hvalue : Nat.ofDigitChars 10 (Nat.toDigits 10 d) 0 = d := Nat.ofDigitChars_ten_toDigits
    rw [decide_eq_false (by omega), Int.natAbs_natCast]
    refine isDouble_up ?_ (hd.trans_eq hvalue.symm) (hvalue.le.trans (hfew hten)) ?_ hn
    · split_ifs with hone
      · simp [hone]
      · exact List.take_append_drop 1 _
    · rw [hvalue]
      convert hle using 3
      split_ifs with hone
      · simp; omega
      · simp; omega

/-- The digits of a decimal that is not too great are read as a double. -/
theorem isDouble_ofDecimal (hlow : low ≤ 0) (hhigh : 0 ≤ high) (hhigh' : high ≤ 17)
    (hd : (d = 0 ∧ k = 0) ∨ (0 < d ∧ (d : ℚ) * 10 ^ k ≤ greatest ∧ (10 ≤ (d : ℚ) * 10 ^ k → d ≤ 10 ^ 17)))
    (negative : Bool) : IsDouble ((ofDecimal low high (Nat.toDigits 10 d) k).leaf negative) := by
  by_cases hrange : low ≤ k + (Nat.toDigits 10 d).length - 1 ∧ k + (Nat.toDigits 10 d).length - 1 ≤ high
  · exact isDouble_positional (areDigits_toDigits d) hhigh' hrange negative
  rcases hd with ⟨rfl, rfl⟩ | ⟨hpos, hle, hfew⟩
  · exact absurd ⟨hlow, hhigh⟩ hrange
  · unfold ofDecimal leaf
    dsimp only
    rw [if_neg hrange]
    refine isDouble_scientific hpos hle hfew rfl (fun hzero => hrange ?_) negative
    rw [hzero]
    exact ⟨hlow, hhigh⟩

/-- The parts in which a finite number is written. -/
def ofFinite (low high : Int) (f : FloatFormat) (m : Nat) (e : Int) : NumberText :=
  if m = 0 then ⟨['0'], some ['0'], none⟩
  else ofDecimal low high (Nat.toDigits 10 (Shortest.decimal .even f m e).1) (Shortest.decimal .even f m e).2

theorem toList_finite (negative : Bool) (m : Nat) (e : Int) :
    (DecimalStyle.finite ⟨some (low, high), true, true, .even⟩ f negative m e).toList =
      (if negative then ['-'] else []) ++ (ofFinite low high f m e).chars := by
  have hsign : (if negative then "-" else "").toList = if negative then ['-'] else [] := by
    cases negative <;> rfl
  rw [← hsign]
  unfold DecimalStyle.finite ofFinite
  dsimp only
  by_cases hm : m = 0
  · rw [if_pos hm, if_pos hm, if_pos rfl, String.toList_append]
    rfl
  · rw [if_neg hm, if_neg hm, String.toList_append, toList_write]

theorem valid_ofFinite : (ofFinite low high f m e).Valid := by
  unfold ofFinite
  split_ifs with hm
  · refine ⟨areDigits_toDigits 0, fun _ => rfl, ?_, nofun⟩
    rintro ds ⟨⟩
    exact areDigits_toDigits 0
  · refine valid_ofDecimal (areDigits_toDigits _) fun hzero => ?_
    rcases Shortest.decimal_spec (Nat.pos_of_ne_zero hm) (Prod.mk.eta (p := Shortest.decimal .even f m e)).symm with
      ⟨hd, hk⟩ | ⟨hpos, -⟩
    · rw [hd]
      exact ⟨rfl, hk⟩
    · exact absurd hzero (head?_toDigits hpos)

/-- A number in the range of its format is read as a double. -/
theorem isDouble_ofFinite (hlow : low ≤ 0) (hhigh : 0 ≤ high) (hhigh' : high ≤ 17) (hf : f = .double ∨ f = .single)
    (hfits : (Binary.finite negative m e).Fits f) : IsDouble ((ofFinite low high f m e).leaf negative) := by
  unfold ofFinite
  split_ifs with hm
  · exact isDouble_fraction (areDigits_toDigits 0).2 (by simp) (by simp) (areDigits_toDigits 0).2
  · exact isDouble_ofDecimal hlow hhigh hhigh' (decimal_spec hf (Nat.pos_of_ne_zero hm) hfits rfl) negative

end NumberText
end Dialogue.Json
