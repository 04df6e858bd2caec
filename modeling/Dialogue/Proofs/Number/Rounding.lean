/-
Rounding to a binary format keeps the order. A ratio is put on the grid of an exponent that its size decides, where
it takes as many bits as a significand has, and there it goes to the nearest natural number, a tie to the even one.
Neither step can swap two numbers, so of two ratios the greater is not rounded to the smaller number, and it is the
last to become infinite.
-/
import Dialogue.Number.Binary
import Mathlib.Algebra.Order.Field.Power
import Mathlib.Data.Nat.Log
import Mathlib.Data.Rat.Cast.Order
import Mathlib.Tactic.FieldSimp
import Mathlib.Tactic.Linarith
import Mathlib.Tactic.NormNum
import Mathlib.Tactic.Positivity
import Mathlib.Tactic.Ring

namespace Dialogue

/-! ## Formats -/

/-- A format with at least one bit and one exponent. -/
structure FloatFormat.Proper (f : FloatFormat) : Prop where
  bits : 1 ≤ f.bits
  exponents : f.least ≤ f.greatest

theorem FloatFormat.proper_double : FloatFormat.double.Proper := ⟨by decide, by decide⟩

theorem FloatFormat.proper_single : FloatFormat.single.Proper := ⟨by decide, by decide⟩

namespace Binary

/-- A finite number whose significand and exponent belong to the format, or a number that is not finite. -/
def Fits (f : FloatFormat) : Binary → Prop
  | .finite _ m e => m < 2 ^ f.bits ∧ f.least ≤ e ∧ e ≤ f.greatest
  | _ => True

/-- A number without its sign; what is not finite counts as zero. -/
def magnitude : Binary → ℚ
  | .finite _ m e => m * 2 ^ e
  | _ => 0

/-! ## Scaling -/

theorem two_zpow_pos (e : Int) : (0 : ℚ) < 2 ^ e := zpow_pos (by norm_num) e

/-- Multiplying by a power of the base either enlarges the numerator or the denominator. -/
theorem scale_ratio (b : Nat) (hb : 0 < b) (n d : Nat) (e : Int) :
    let r := if 0 ≤ e then (n * b ^ e.toNat, d) else (n, d * b ^ (-e).toNat)
    (r.1 : ℚ) / r.2 = n / d * b ^ e ∧ (0 < d → 0 < r.2) ∧ (0 < n → 0 < r.1) := by
  intro r
  by_cases he : 0 ≤ e
  · have hr : r = (n * b ^ e.toNat, d) := if_pos he
    obtain ⟨k, rfl⟩ := Int.eq_ofNat_of_zero_le he
    rw [hr]
    refine ⟨?_, id, fun h => by positivity⟩
    push_cast
    rw [Int.toNat_natCast, zpow_natCast]
    ring
  · have hr : r = (n, d * b ^ (-e).toNat) := if_neg he
    obtain ⟨k, hk⟩ : ∃ k : Nat, e = -(k : Int) := ⟨(-e).toNat, by omega⟩
    rw [hr]
    refine ⟨?_, fun h => by positivity, id⟩
    subst hk
    push_cast
    rw [neg_neg, Int.toNat_natCast, zpow_neg, zpow_natCast, div_mul_eq_div_div, div_eq_mul_inv (_ / _)]

theorem scaleTwo_ratio (n d : Nat) (e : Int) :
    ((scaleTwo n d e).1 : ℚ) / (scaleTwo n d e).2 = n / d * 2 ^ e :=
  (scale_ratio 2 (by decide) n d e).1

theorem scaleTwo_snd_pos (n : Nat) {d : Nat} (hd : 0 < d) (e : Int) : 0 < (scaleTwo n d e).2 :=
  (scale_ratio 2 (by decide) n d e).2.1 hd

theorem scaleTen_ratio (n d : Nat) (e : Int) :
    ((scaleTen n d e).1 : ℚ) / (scaleTen n d e).2 = n / d * 10 ^ e :=
  (scale_ratio 10 (by decide) n d e).1

theorem scaleTen_snd_pos (n : Nat) {d : Nat} (hd : 0 < d) (e : Int) : 0 < (scaleTen n d e).2 :=
  (scale_ratio 10 (by decide) n d e).2.1 hd

/-! ## The nearest natural number -/

variable {n d n' d' : Nat}

/-- The nearest natural number is at most half a unit away, and even if it is just that. -/
theorem nearest_spec (n d : Nat) (hd : 0 < d) :
    2 * (d * nearest n d) ≤ 2 * n + d ∧ 2 * n ≤ 2 * (d * nearest n d) + d ∧
      (2 * (d * nearest n d) = 2 * n + d ∨ 2 * n = 2 * (d * nearest n d) + d → nearest n d % 2 = 0) := by
  have hsplit := Nat.div_add_mod n d
  have hmod := Nat.mod_lt n hd
  have hnext : d * (n / d + 1) = d * (n / d) + d := Nat.mul_add_one d (n / d)
  unfold nearest
  dsimp only
  split_ifs with hdown hup heven <;> omega

theorem nearest_mono (hd : 0 < d) (hd' : 0 < d') (h : (n : ℚ) / d ≤ n' / d') : nearest n d ≤ nearest n' d' := by
  replace h : n * d' ≤ n' * d := by
    rw [div_le_div_iff₀ (by exact_mod_cast hd) (by exact_mod_cast hd')] at h
    exact_mod_cast h
  obtain ⟨hle, -, htie⟩ := nearest_spec n d hd
  obtain ⟨-, hge', htie'⟩ := nearest_spec n' d' hd'
  refine Nat.le_of_not_lt fun hlt => ?_
  -- the numbers lie between two neighbours, so both are half way, and both neighbours even
  obtain ⟨gap, hgap⟩ : ∃ gap, nearest n d = nearest n' d' + 1 + gap := ⟨_, (Nat.add_sub_of_le hlt).symm⟩
  generalize nearest n d = a at *
  generalize nearest n' d' = b at *
  subst hgap
  have hcross : 2 * (d * d' * (2 * b + 1)) + 2 * (2 * (d * d' * gap)) ≤ 2 * (n * d') * 2 := by nlinarith
  have hcross' : 2 * (n' * d) * 2 ≤ 2 * (d * d' * (2 * b + 1)) := by nlinarith
  have hdd : 0 < d * d' := Nat.mul_pos hd hd'
  have hzero : d * d' * gap = 0 := by omega
  obtain rfl : gap = 0 := by
    rcases Nat.mul_eq_zero.1 hzero with h | h
    · omega
    · exact h
  have hmid : 2 * (n * d') = d * d' * (2 * b + 1) := by omega
  have hmid' : 2 * (n' * d) = d * d' * (2 * b + 1) := by omega
  have heven : (b + 1 + 0) % 2 = 0 := by
    refine htie (.inl (Nat.eq_of_mul_eq_mul_right hd' ?_))
    nlinarith
  have heven' : b % 2 = 0 := by
    refine htie' (.inr (Nat.eq_of_mul_eq_mul_right hd ?_))
    nlinarith
  omega

theorem nearest_one (k : Nat) : nearest k 1 = k := by
  unfold nearest
  rw [Nat.div_one, Nat.mod_one]
  rfl

theorem nearest_le {k : Nat} (hd : 0 < d) (h : (n : ℚ) / d ≤ k) : nearest n d ≤ k :=
  nearest_one k ▸ nearest_mono hd Nat.one_pos (by simpa using h)

theorem le_nearest {k : Nat} (hd : 0 < d) (h : (k : ℚ) ≤ n / d) : k ≤ nearest n d :=
  nearest_one k ▸ nearest_mono Nat.one_pos hd (by simpa using h)

/-! ## The exponent of a ratio -/

variable {f : FloatFormat}

/-- The exponent on whose grid a ratio is rounded. -/
def exponentOf (f : FloatFormat) (n d : Nat) : Int :=
  let low : Int := (n.log2 : Int) - d.log2 - f.bits
  let r := scaleTwo n d (-low)
  max f.least (if r.1 / r.2 < Nat.pow 2 f.bits then low else low + 1)

/-- The significand that a ratio is rounded to; it may have a bit too many. -/
def significandOf (f : FloatFormat) (n d : Nat) : Nat :=
  nearest (scaleTwo n d (-exponentOf f n d)).1 (scaleTwo n d (-exponentOf f n d)).2

theorem ofRatio_eq (hn : n ≠ 0) (negative : Bool) :
    ofRatio f negative n d = normal f negative (significandOf f n d) (exponentOf f n d) := by
  unfold ofRatio
  rw [if_neg hn]
  rfl

theorem ratio_log2 (hn : 0 < n) (hd : 0 < d) :
    (2 : ℚ) ^ ((n.log2 : Int) - d.log2 - 1) ≤ n / d ∧ (n : ℚ) / d < 2 ^ ((n.log2 : Int) - d.log2 + 1) := by
  have hbounds {k : Nat} (hk : 0 < k) : (2 : ℚ) ^ (k.log2 : Int) ≤ k ∧ (k : ℚ) < 2 ^ ((k.log2 : Int) + 1) := by
    have hle := Nat.log2_self_le hk.ne'
    have hlt := Nat.lt_log2_self (n := k)
    constructor
    · rw [zpow_natCast]
      exact_mod_cast hle
    · rw [← Nat.cast_succ, zpow_natCast]
      exact_mod_cast hlt
  obtain ⟨hn1, hn2⟩ := hbounds hn
  obtain ⟨hd1, hd2⟩ := hbounds hd
  have hdpos : (0 : ℚ) < d := by exact_mod_cast hd
  constructor
  · rw [le_div_iff₀ hdpos]
    calc (2 : ℚ) ^ ((n.log2 : Int) - d.log2 - 1) * d
        ≤ 2 ^ ((n.log2 : Int) - d.log2 - 1) * 2 ^ ((d.log2 : Int) + 1) :=
          mul_le_mul_of_nonneg_left hd2.le (two_zpow_pos _).le
      _ = 2 ^ (n.log2 : Int) := by rw [← zpow_add₀ two_ne_zero]; congr 1; omega
      _ ≤ n := hn1
  · rw [div_lt_iff₀ hdpos]
    calc (n : ℚ) < 2 ^ ((n.log2 : Int) + 1) := hn2
      _ = 2 ^ ((n.log2 : Int) - d.log2 + 1) * 2 ^ (d.log2 : Int) := by
          rw [← zpow_add₀ two_ne_zero]; congr 1; omega
      _ ≤ 2 ^ ((n.log2 : Int) - d.log2 + 1) * d := mul_le_mul_of_nonneg_left hd1 (two_zpow_pos _).le

theorem least_le_exponentOf (f : FloatFormat) (n d : Nat) : f.least ≤ exponentOf f n d := le_max_left ..

/-- The exponent of a ratio is one at which its significand has no more bits than the format, and just as many
unless it is the least. -/
theorem exponentOf_spec (f : FloatFormat) (hn : 0 < n) (hd : 0 < d) :
    (n : ℚ) / d < 2 ^ (f.bits + exponentOf f n d) ∧
      (f.least < exponentOf f n d → (2 : ℚ) ^ (f.bits - 1 + exponentOf f n d) ≤ n / d) := by
  have hmono {a b : Int} (h : a ≤ b) : (2 : ℚ) ^ a ≤ 2 ^ b := zpow_le_zpow_right₀ (by norm_num) h
  obtain ⟨hlow, hhigh⟩ := ratio_log2 hn hd
  -- apart from the least exponent
  obtain ⟨e, he, hbelow, habove⟩ : ∃ e : Int, exponentOf f n d = max f.least e ∧
      (n : ℚ) / d < 2 ^ (f.bits + e) ∧ (2 : ℚ) ^ (f.bits - 1 + e) ≤ n / d := by
    refine ⟨_, rfl, ?_⟩
    generalize hl : (n.log2 : Int) - d.log2 - f.bits = low
    have hden := scaleTwo_snd_pos n hd (-low)
    have hratio := scaleTwo_ratio n d (-low)
    have hfloor : (scaleTwo n d (-low)).1 / (scaleTwo n d (-low)).2 < Nat.pow 2 f.bits ↔
        (n : ℚ) / d < 2 ^ (f.bits + low) := by
      rw [Nat.div_lt_iff_lt_mul hden, zpow_add₀ two_ne_zero, ← div_lt_iff₀ (two_zpow_pos low),
        div_eq_mul_inv _ (2 ^ low), ← zpow_neg, ← hratio, div_lt_iff₀ (by exact_mod_cast hden), zpow_natCast]
      exact_mod_cast Iff.rfl
    by_cases hfits : (n : ℚ) / d < 2 ^ (f.bits + low)
    · rw [if_pos (hfloor.2 hfits)]
      exact ⟨hfits, (hmono (by omega)).trans hlow⟩
    · rw [if_neg fun h => hfits (hfloor.1 h)]
      exact ⟨hhigh.trans_le (hmono (by omega)), (hmono (by omega)).trans (not_lt.1 hfits)⟩
  rw [he]
  exact ⟨hbelow.trans_le (hmono (by omega)), fun h => (hmono (by omega)).trans habove⟩

/-- Of two ratios the greater has no smaller exponent. -/
theorem exponentOf_mono (f : FloatFormat) (hn : 0 < n) (hd : 0 < d) (hn' : 0 < n') (hd' : 0 < d')
    (h : (n : ℚ) / d ≤ n' / d') : exponentOf f n d ≤ exponentOf f n' d' := by
  refine not_lt.1 fun hlt => ?_
  obtain ⟨-, habove⟩ := exponentOf_spec f hn hd
  obtain ⟨hbelow, -⟩ := exponentOf_spec f hn' hd'
  have hle : (2 : ℚ) ^ (f.bits + exponentOf f n' d') ≤ 2 ^ (f.bits - 1 + exponentOf f n d) :=
    zpow_le_zpow_right₀ (by norm_num) (by omega)
  have := habove ((least_le_exponentOf f n' d').trans_lt hlt)
  linarith

/-! ## The significand of a ratio -/

/-- A ratio on the grid of its exponent. -/
theorem grid_ratio (f : FloatFormat) (n d : Nat) :
    ((scaleTwo n d (-exponentOf f n d)).1 : ℚ) / (scaleTwo n d (-exponentOf f n d)).2 =
      n / d / 2 ^ exponentOf f n d := by
  rw [scaleTwo_ratio, zpow_neg, ← div_eq_mul_inv]

theorem significandOf_le (f : FloatFormat) (hn : 0 < n) (hd : 0 < d) : significandOf f n d ≤ 2 ^ f.bits := by
  obtain ⟨hbelow, -⟩ := exponentOf_spec f hn hd
  refine nearest_le (scaleTwo_snd_pos n hd _) ?_
  rw [grid_ratio, div_le_iff₀ (two_zpow_pos _)]
  rw [zpow_add₀ two_ne_zero, zpow_natCast] at hbelow
  exact_mod_cast hbelow.le

/-- Above the least exponent a significand has as many bits as the format. -/
theorem le_significandOf (hf : f.Proper) (hn : 0 < n) (hd : 0 < d) (h : f.least < exponentOf f n d) :
    2 ^ (f.bits - 1) ≤ significandOf f n d := by
  have habove := (exponentOf_spec f hn hd).2 h
  refine le_nearest (scaleTwo_snd_pos n hd _) ?_
  have hbits : (f.bits : Int) - 1 = (f.bits - 1 : Nat) := by have := hf.bits; omega
  rw [grid_ratio, le_div_iff₀ (two_zpow_pos _)]
  rw [hbits, zpow_add₀ two_ne_zero, zpow_natCast] at habove
  exact_mod_cast habove

/-- What a ratio is rounded to, if no exponent is too great. -/
def rounded (f : FloatFormat) (n d : Nat) : ℚ := if n = 0 then 0 else significandOf f n d * 2 ^ exponentOf f n d

/-- Rounding keeps the order. -/
theorem rounded_mono (hf : f.Proper) (hd : 0 < d) (hd' : 0 < d') (h : (n : ℚ) / d ≤ n' / d') :
    rounded f n d ≤ rounded f n' d' := by
  unfold rounded
  rcases Nat.eq_zero_or_pos n with rfl | hn
  · rw [if_pos rfl]
    split_ifs
    · exact le_refl _
    · exact mul_nonneg (Nat.cast_nonneg _) (two_zpow_pos _).le
  have hn' : 0 < n' := by
    have hpos : (0 : ℚ) < n / d := div_pos (by exact_mod_cast hn) (by exact_mod_cast hd)
    have hpos' := hpos.trans_le h
    rw [div_pos_iff_of_pos_right (by exact_mod_cast hd')] at hpos'
    exact_mod_cast hpos'
  rw [if_neg hn.ne', if_neg hn'.ne']
  rcases (exponentOf_mono f hn hd hn' hd' h).eq_or_lt with heq | hlt
  · -- on one grid the order is that of the nearest numbers
    have hsig : significandOf f n d ≤ significandOf f n' d' := by
      refine nearest_mono (scaleTwo_snd_pos n hd _) (scaleTwo_snd_pos n' hd' _) ?_
      rw [grid_ratio, grid_ratio, heq]
      exact div_le_div_of_nonneg_right h (two_zpow_pos _).le
    rw [heq]
    exact mul_le_mul_of_nonneg_right (by exact_mod_cast hsig) (two_zpow_pos _).le
  · -- between two grids lies a power of two
    have hle : (significandOf f n d : ℚ) ≤ 2 ^ (f.bits : Int) := by
      rw [zpow_natCast]
      exact_mod_cast significandOf_le f hn hd
    have hge : (2 : ℚ) ^ ((f.bits : Int) - 1) ≤ significandOf f n' d' := by
      have hbits : (f.bits : Int) - 1 = (f.bits - 1 : Nat) := by have := hf.bits; omega
      rw [hbits, zpow_natCast]
      exact_mod_cast le_significandOf hf hn' hd' ((least_le_exponentOf f n d).trans_lt hlt)
    calc (significandOf f n d : ℚ) * 2 ^ exponentOf f n d
        ≤ 2 ^ (f.bits : Int) * 2 ^ exponentOf f n d := mul_le_mul_of_nonneg_right hle (two_zpow_pos _).le
      _ ≤ 2 ^ ((f.bits : Int) - 1) * 2 ^ exponentOf f n' d' := by
          rw [← zpow_add₀ two_ne_zero, ← zpow_add₀ two_ne_zero]
          exact zpow_le_zpow_right₀ (by norm_num) (by omega)
      _ ≤ significandOf f n' d' * 2 ^ exponentOf f n' d' := mul_le_mul_of_nonneg_right hge (two_zpow_pos _).le

/-! ## The number of a ratio -/

theorem finite_fits {negative : Bool} {m : Nat} {e : Int} (hm : m < 2 ^ f.bits) (hleast : f.least ≤ e)
    (hgreatest : e ≤ f.greatest) : (finite negative m e).Fits f := ⟨hm, hleast, hgreatest⟩

theorem normal_carried {negative : Bool} {s : Nat} {e : Int} (h : 2 ^ f.bits ≤ s) : normal f negative s e =
    if f.greatest < e + 1 then infinite negative else finite negative (s / 2) (e + 1) := by
  have hcarried : decide (Nat.pow 2 f.bits ≤ s) = true := decide_eq_true h
  simp only [normal, hcarried, if_true]

theorem normal_kept {negative : Bool} {s : Nat} {e : Int} (h : s < 2 ^ f.bits) : normal f negative s e =
    if f.greatest < e then infinite negative else finite negative s e := by
  have hkept : decide (Nat.pow 2 f.bits ≤ s) = false := decide_eq_false (not_le.2 h)
  simp only [normal, hkept, Bool.false_eq_true, if_false]

/-- A significand that may have a bit too many, at an exponent that may be too great: what it is in the format. -/
theorem normal_spec (hf : f.Proper) {s : Nat} {e : Int} (negative : Bool) (hs : s ≤ 2 ^ f.bits) (he : f.least ≤ e)
    (hbits : f.least < e → 2 ^ (f.bits - 1) ≤ s) :
    ((normal f negative s e).isFinite = true ↔ (s : ℚ) * 2 ^ e < 2 ^ (f.bits + f.greatest)) ∧
      ((normal f negative s e).isFinite = true → (normal f negative s e).magnitude = s * 2 ^ e) ∧
      (normal f negative s e).Fits f := by
  have hexponents := hf.exponents
  have hhalf : (f.bits : Int) - 1 = (f.bits - 1 : Nat) := by have := hf.bits; omega
  have hpow : 2 ^ f.bits = 2 * 2 ^ (f.bits - 1) := by
    rw [← Nat.pow_succ', Nat.succ_eq_add_one, Nat.sub_add_cancel hf.bits]
  have hlt {a b : Int} : (2 : ℚ) ^ a < 2 ^ b ↔ a < b := zpow_lt_zpow_iff_right₀ (by norm_num)
  rcases hs.eq_or_lt with rfl | hs
  · -- the bit too many moves it to the next exponent
    have hvalue : ((2 ^ f.bits : Nat) : ℚ) * 2 ^ e = 2 ^ (f.bits + e) := by
      rw [Nat.cast_pow, Nat.cast_ofNat, zpow_add₀ two_ne_zero, zpow_natCast]
    rw [normal_carried (le_refl _), hvalue, hlt, hpow, Nat.mul_div_cancel_left _ Nat.two_pos]
    split_ifs with hinf
    · exact ⟨⟨nofun, fun h => by omega⟩, nofun, trivial⟩
    · refine ⟨⟨fun _ => by omega, fun _ => rfl⟩, fun _ => ?_, finite_fits ?_ (by omega) (by omega)⟩
      · rw [magnitude, Nat.cast_pow, Nat.cast_ofNat, ← zpow_natCast, ← zpow_add₀ two_ne_zero]
        congr 1
        omega
      · have := Nat.two_pow_pos (f.bits - 1)
        omega
  · have hs' : (s : ℚ) < 2 ^ (f.bits : Int) := by
      rw [zpow_natCast]
      exact_mod_cast hs
    rw [normal_kept hs]
    split_ifs with hinf
    · refine ⟨⟨nofun, fun h => ?_⟩, nofun, trivial⟩
      have hs'' : (2 : ℚ) ^ ((f.bits : Int) - 1) ≤ s := by
        rw [hhalf, zpow_natCast]
        exact_mod_cast hbits (by omega)
      have hle : (2 : ℚ) ^ ((f.bits : Int) - 1) * 2 ^ e ≤ s * 2 ^ e :=
        mul_le_mul_of_nonneg_right hs'' (two_zpow_pos e).le
      rw [← zpow_add₀ two_ne_zero] at hle
      have := hlt.1 (hle.trans_lt h)
      omega
    · refine ⟨⟨fun _ => ?_, fun _ => rfl⟩, fun _ => rfl, finite_fits hs he (by omega)⟩
      calc (s : ℚ) * 2 ^ e < 2 ^ (f.bits : Int) * 2 ^ e := mul_lt_mul_of_pos_right hs' (two_zpow_pos e)
        _ = 2 ^ (f.bits + e) := by rw [zpow_add₀ two_ne_zero]
        _ ≤ 2 ^ (f.bits + f.greatest) := zpow_le_zpow_right₀ (by norm_num) (by omega)

/-- The number of a ratio is finite unless the ratio is rounded to a power of two that is too great. -/
theorem ofRatio_spec (hf : f.Proper) (negative : Bool) (n : Nat) (hd : 0 < d) :
    ((ofRatio f negative n d).isFinite = true ↔ rounded f n d < 2 ^ (f.bits + f.greatest)) ∧
      ((ofRatio f negative n d).isFinite = true → (ofRatio f negative n d).magnitude = rounded f n d) ∧
      (ofRatio f negative n d).Fits f := by
  unfold rounded
  rcases Nat.eq_zero_or_pos n with rfl | hn
  · have hzero : ofRatio f negative 0 d = finite negative 0 f.least := rfl
    rw [hzero, if_pos rfl]
    refine ⟨⟨fun _ => two_zpow_pos _, fun _ => rfl⟩, fun _ => by simp [magnitude], ?_⟩
    exact finite_fits (Nat.two_pow_pos _) (le_refl _) hf.exponents
  · rw [ofRatio_eq hn.ne', if_neg hn.ne']
    exact normal_spec hf negative (significandOf_le f hn hd) (least_le_exponentOf f n d)
      (le_significandOf hf hn hd)

theorem ofRatio_fits (hf : f.Proper) (negative : Bool) (n : Nat) (hd : 0 < d) : (ofRatio f negative n d).Fits f :=
  (ofRatio_spec hf negative n hd).2.2

/-- If a ratio is rounded to a finite number, then so is every smaller one. -/
theorem isFinite_ofRatio_mono (hf : f.Proper) {negative negative' : Bool} (hd : 0 < d) (hd' : 0 < d')
    (h : (n : ℚ) / d ≤ n' / d') (hfinite : (ofRatio f negative' n' d').isFinite = true) :
    (ofRatio f negative n d).isFinite = true :=
  (ofRatio_spec hf negative n hd).1.2
    ((rounded_mono hf hd hd' h).trans_lt ((ofRatio_spec hf negative' n' hd').1.1 hfinite))

theorem magnitude_ofRatio_mono (hf : f.Proper) {negative negative' : Bool} (hd : 0 < d) (hd' : 0 < d')
    (h : (n : ℚ) / d ≤ n' / d') (hfinite : (ofRatio f negative' n' d').isFinite = true) :
    (ofRatio f negative n d).magnitude ≤ (ofRatio f negative' n' d').magnitude := by
  rw [(ofRatio_spec hf negative n hd).2.1 (isFinite_ofRatio_mono hf hd hd' h hfinite),
    (ofRatio_spec hf negative' n' hd').2.1 hfinite]
  exact rounded_mono hf hd hd' h

end Binary

end Dialogue
