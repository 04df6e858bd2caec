/-
Digits scaled by a power of ten, as JSON text is read. The scaling rounds more than once, so it does not always give
the number that is written; but it never fails for what is written of a double. Dividing cannot fail at all, and of
the products it is enough to look at the greatest for each power, since rounding keeps the order.
-/
import Dialogue.Json.Read
import Dialogue.Proofs.Number.Rounding

namespace Dialogue.Json

/-! ## Powers of ten -/

theorem isFinite_powerOfTen_mono {n n' : Nat} (h : n ≤ n') (hfinite : (powerOfTen n').isFinite = true) :
    (powerOfTen n).isFinite = true := by
  refine Binary.isFinite_ofRatio_mono FloatFormat.proper_double Nat.one_pos Nat.one_pos ?_ hfinite
  exact div_le_div_of_nonneg_right (by exact_mod_cast Nat.pow_le_pow_right (by decide) h) (by norm_num)

theorem isFinite_powerOfTen {n : Nat} (hn : n ≤ 308) : (powerOfTen n).isFinite = true :=
  isFinite_powerOfTen_mono hn (by decide +kernel)

theorem magnitude_powerOfTen_mono {n n' : Nat} (h : n ≤ n') (hn' : n' ≤ 308) :
    (powerOfTen n).magnitude ≤ (powerOfTen n').magnitude := by
  refine Binary.magnitude_ofRatio_mono FloatFormat.proper_double Nat.one_pos Nat.one_pos ?_ (isFinite_powerOfTen hn')
  exact div_le_div_of_nonneg_right (by exact_mod_cast Nat.pow_le_pow_right (by decide) h) (by norm_num)

/-! ## Dividing -/

/-- A double up to `2 ^ 64`, as digits are taken for and whatever they are divided into. -/
def IsSmall (x : Binary) : Prop := x.isFinite = true ∧ x.magnitude ≤ 2 ^ 64

theorem isSmall_ofRatio {negative : Bool} {p q : Nat} (hq : 0 < q) (h : (p : ℚ) / q ≤ 2 ^ 64) :
    IsSmall (.ofRatio .double negative p q) := by
  have hgreatest : Binary.ofRatio .double false (2 ^ 64) 1 = .finite false (2 ^ 52) 12 := by decide +kernel
  have hle : (p : ℚ) / q ≤ (2 ^ 64 : Nat) / (1 : Nat) := by
    rw [Nat.cast_one, div_one]
    exact_mod_cast h
  have hfinite : (Binary.ofRatio .double false (2 ^ 64) 1).isFinite = true := by rw [hgreatest]; rfl
  refine ⟨Binary.isFinite_ofRatio_mono FloatFormat.proper_double hq Nat.one_pos hle hfinite,
    (Binary.magnitude_ofRatio_mono FloatFormat.proper_double hq Nat.one_pos hle hfinite).trans ?_⟩
  rw [hgreatest, Binary.magnitude]
  norm_num

theorem isSmall_ofInt {v : Nat} (hv : v ≤ 2 ^ 64) : IsSmall (.ofInt .double v) := by
  unfold Binary.ofInt
  refine isSmall_ofRatio Nat.one_pos ?_
  rw [Nat.cast_one, div_one, Int.natAbs_natCast]
  exact_mod_cast hv

/-- Dividing by a power of ten makes a number no greater. -/
theorem isSmall_dividedBy {x : Binary} (hx : IsSmall x) {n : Nat} (hn : n ≤ 308) :
    IsSmall (dividedBy x (powerOfTen n)) := by
  obtain ⟨hfinite, hsmall⟩ := hx
  have hone : 1 ≤ (powerOfTen n).magnitude := by
    have hzero : powerOfTen 0 = .finite false (2 ^ 52) (-52) := by decide +kernel
    refine le_trans ?_ (magnitude_powerOfTen_mono (Nat.zero_le n) hn)
    rw [hzero, Binary.magnitude]
    norm_num
  have hpower := isFinite_powerOfTen hn
  generalize powerOfTen n = y at hone hpower ⊢
  cases x <;> cases y <;> try contradiction
  rename_i s m e t p k
  have hratio := Binary.scaleTwo_ratio p 1 k
  have hden := Binary.scaleTwo_snd_pos p Nat.one_pos k
  have hquotient : dividedBy (.finite s m e) (.finite t p k) =
      (Binary.finite s m e).scale (Binary.scaleTwo p 1 k).2 (Binary.scaleTwo p 1 k).1 := rfl
  rw [hquotient]
  generalize Binary.scaleTwo p 1 k = r at hratio hden ⊢
  obtain ⟨a, b⟩ := r
  dsimp only at hratio hden ⊢
  rw [Nat.cast_one, div_one] at hratio
  rw [Binary.magnitude] at hone hsmall
  have hb : (0 : ℚ) < b := by exact_mod_cast hden
  have hba : (b : ℚ) ≤ a := by
    rw [← hratio, le_div_iff₀ hb, one_mul] at hone
    exact hone
  have ha : 0 < a := by exact_mod_cast hb.trans_le hba
  have hscale : (Binary.finite s m e).scale b a =
      .ofRatio .double s (Binary.scaleTwo (m * b) a e).1 (Binary.scaleTwo (m * b) a e).2 := rfl
  rw [hscale]
  refine isSmall_ofRatio (Binary.scaleTwo_snd_pos _ ha e) ?_
  rw [Binary.scaleTwo_ratio, Nat.cast_mul]
  calc (m : ℚ) * b / a * 2 ^ e = m * 2 ^ e * (b / a) := by ring
    _ ≤ m * 2 ^ e * 1 := by
        refine mul_le_mul_of_nonneg_left ((div_le_one (hb.trans_le hba)).2 hba) ?_
        exact mul_nonneg (Nat.cast_nonneg m) (Binary.two_zpow_pos e).le
    _ ≤ 2 ^ 64 := by rwa [mul_one]

/-- Dividing by a power of ten gives a finite number whatever the power, in as many steps as it takes. -/
theorem exists_scaled_of_neg {x : Binary} (hx : IsSmall x) {e : Int} (he : e < 0) (steps : Nat) :
    ∃ y, scaled x e steps = some y ∧ y.isFinite = true := by
  induction steps generalizing x e with
  | zero => exact ⟨x, rfl, hx.1⟩
  | succ steps ih =>
    rw [scaled]
    split_ifs with hnear hpos hzero hpos
    · omega
    · exact ⟨_, rfl, (isSmall_dividedBy hx hnear).1⟩
    · exact ⟨x, rfl, hx.1⟩
    · omega
    · exact ih (isSmall_dividedBy hx (le_refl _)) (by omega)

/-! ## Multiplying -/

theorem times_finite (s t : Bool) (m n : Nat) (e k : Int) : ∃ p q : Nat, 0 < q ∧
    (p : ℚ) / q = m * 2 ^ e * (n * 2 ^ k) ∧ times (.finite s m e) (.finite t n k) = .ofRatio .double s p q := by
  have hratio := Binary.scaleTwo_ratio n 1 k
  have hden := Binary.scaleTwo_snd_pos n Nat.one_pos k
  have htimes : times (.finite s m e) (.finite t n k) =
      (Binary.finite s m e).scale (Binary.scaleTwo n 1 k).1 (Binary.scaleTwo n 1 k).2 := rfl
  rw [htimes]
  generalize Binary.scaleTwo n 1 k = r at hratio hden ⊢
  obtain ⟨p, q⟩ := r
  refine ⟨(Binary.scaleTwo (m * p) q e).1, _, Binary.scaleTwo_snd_pos (m * p) hden e, ?_, rfl⟩
  rw [Nat.cast_one, div_one] at hratio
  rw [Binary.scaleTwo_ratio, ← hratio, Nat.cast_mul]
  ring

/-- If a product is finite, then so is every product of smaller numbers. -/
theorem isFinite_times_mono {x x' y y' : Binary} (hx : x.isFinite = true) (hx' : x'.isFinite = true)
    (hy : y.isFinite = true) (hy' : y'.isFinite = true) (hxx' : x.magnitude ≤ x'.magnitude)
    (hyy' : y.magnitude ≤ y'.magnitude) (h : (times x' y').isFinite = true) : (times x y).isFinite = true := by
  cases x <;> cases x' <;> cases y <;> cases y' <;> try contradiction
  rename_i s m e s' m' e' t n k t' n' k'
  obtain ⟨p, q, hq, hratio, heq⟩ := times_finite s t m n e k
  obtain ⟨p', q', hq', hratio', heq'⟩ := times_finite s' t' m' n' e' k'
  rw [heq'] at h
  rw [heq]
  refine Binary.isFinite_ofRatio_mono FloatFormat.proper_double hq hq' ?_ h
  rw [hratio, hratio']
  exact mul_le_mul hxx' hyy' (mul_nonneg (Nat.cast_nonneg _) (Binary.two_zpow_pos k).le)
    (mul_nonneg (Nat.cast_nonneg _) (Binary.two_zpow_pos e').le)

/-- The greatest double. -/
def greatest : Nat := (2 ^ 53 - 1) * 2 ^ 971

theorem le_of_pow_le_greatest {n : Nat} (h : 10 ^ n ≤ greatest) : n ≤ 308 := by
  have hgreatest : greatest < (10 ^ 103) ^ 3 := by decide +kernel
  have hpow : 10 ^ n < (10 ^ 103) ^ 3 := h.trans_lt hgreatest
  rw [← Nat.pow_mul] at hpow
  have := (Nat.pow_lt_pow_iff_right (by decide)).1 hpow
  omega

/-- The most that digits can be which are scaled by a power of ten up to the greatest double. -/
def mostDigits (n : Nat) : Nat := if n ≤ 291 then 10 ^ 17 else greatest / 10 ^ n

/-- Digits that are scaled up to the greatest double stay finite, although they are rounded twice. -/
theorem isFinite_times_digits {v n : Nat} (hn : n ≤ 308) (hv : v ≤ 10 ^ 17) (h : v * 10 ^ n ≤ greatest) :
    (times (.ofInt .double v) (powerOfTen n)).isFinite = true := by
  -- the power is enlarged to the next one of a table
  obtain ⟨n', hnn', hn', hv'⟩ : ∃ n', n ≤ n' ∧ (291 ≤ n' ∧ n' ≤ 308) ∧ v ≤ mostDigits n' := by
    rcases Nat.le_total n 291 with hle | hle
    · exact ⟨291, hle, by decide, hv⟩
    · refine ⟨n, le_refl _, ⟨hle, hn⟩, ?_⟩
      unfold mostDigits
      split_ifs
      · exact hv
      · exact (Nat.le_div_iff_mul_le (Nat.pow_pos (by decide))).2 h
  have htable : ∀ n < 309, 291 ≤ n → (Binary.ofInt .double (mostDigits n)).isFinite = true ∧
      (times (.ofInt .double (mostDigits n)) (powerOfTen n)).isFinite = true := by decide +kernel
  obtain ⟨hfinite, hproduct⟩ := htable n' (by omega) hn'.1
  have hdigits (v : Nat) : Binary.ofInt .double v = .ofRatio .double false v 1 := by
    unfold Binary.ofInt
    rw [decide_eq_false (by omega), Int.natAbs_natCast]
  rw [hdigits] at hfinite hproduct ⊢
  have hle : (v : ℚ) / (1 : Nat) ≤ mostDigits n' / (1 : Nat) :=
    div_le_div_of_nonneg_right (by exact_mod_cast hv') (by norm_num)
  exact isFinite_times_mono
    (Binary.isFinite_ofRatio_mono FloatFormat.proper_double Nat.one_pos Nat.one_pos hle hfinite) hfinite
    (isFinite_powerOfTen hn) (isFinite_powerOfTen hn'.2)
    (Binary.magnitude_ofRatio_mono FloatFormat.proper_double Nat.one_pos Nat.one_pos hle hfinite)
    (magnitude_powerOfTen_mono hnn' hn'.2) hproduct

/-- So digits that are worth no more than the greatest double are scaled to some number. -/
theorem exists_scaled {v : Nat} {e : Int} (hpos : 0 < v) (hv : v ≤ 10 ^ 17) (h : (v : ℚ) * 10 ^ e ≤ greatest) :
    ∃ y, scaled (.ofInt .double v) e 5 = some y ∧ y.isFinite = true := by
  rcases lt_or_ge e 0 with he | he
  · exact exists_scaled_of_neg (isSmall_ofInt (hv.trans (by decide))) he 5
  obtain ⟨n, rfl⟩ := Int.eq_ofNat_of_zero_le he
  have h' : v * 10 ^ n ≤ greatest := by
    rw [zpow_natCast] at h
    exact_mod_cast h
  have hn : n ≤ 308 := le_of_pow_le_greatest ((Nat.le_mul_of_pos_left _ hpos).trans h')
  rw [scaled, if_pos (by simpa using hn), if_pos he]
  exact ⟨_, if_pos (isFinite_times_digits hn hv h'), isFinite_times_digits hn hv h'⟩

end Dialogue.Json
