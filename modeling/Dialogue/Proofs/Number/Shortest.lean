/-
How large the shortest decimal of a number is. It lies in the rounding interval of the number, and so no more than
half a unit above it; and if the number is one or more, its digits are among the seventeen that are looked for.
-/
import Dialogue.Number.Shortest
import Dialogue.Proofs.Number.Rounding
import Mathlib.Data.Nat.Cast.Order.Field

namespace Dialogue.Shortest

theorem ten_zpow_pos (k : Int) : (0 : ℚ) < 10 ^ k := zpow_pos (by norm_num) k

/-! ## Comparing with a decimal -/

theorem compareDecimal_eq (d : Nat) (k : Int) (b : Nat) (e : Int) :
    compareDecimal d k b e = compare ((d : ℚ) * 10 ^ k) (b * 2 ^ e) := by
  have hden := Binary.scaleTen_snd_pos d Nat.one_pos k
  have hden' := Binary.scaleTwo_snd_pos b Nat.one_pos e
  have hten := Binary.scaleTen_ratio d 1 k
  have htwo := Binary.scaleTwo_ratio b 1 e
  rw [Nat.cast_one, div_one] at hten htwo
  unfold compareDecimal
  generalize Binary.scaleTen d 1 k = a at *
  generalize Binary.scaleTwo b 1 e = c at *
  obtain ⟨p, q⟩ := a
  obtain ⟨r, s⟩ := c
  dsimp only at *
  have hq : (0 : ℚ) < q := by exact_mod_cast hden
  have hs : (0 : ℚ) < s := by exact_mod_cast hden'
  rw [← hten, ← htwo]
  rcases lt_trichotomy (p * s) (r * q) with h | h | h
  · rw [compare_lt_iff_lt.2 h]
    refine (compare_lt_iff_lt.2 ?_).symm
    rw [div_lt_div_iff₀ hq hs]
    exact_mod_cast h
  · rw [compare_eq_iff_eq.2 h]
    refine (compare_eq_iff_eq.2 ?_).symm
    rw [div_eq_div_iff hq.ne' hs.ne']
    exact_mod_cast h
  · rw [compare_gt_iff_gt.2 h]
    refine (compare_gt_iff_gt.2 ?_).symm
    rw [div_lt_div_iff₀ hs hq]
    exact_mod_cast h

variable {tie : Tie} {f : FloatFormat} {m : Nat} {e : Int} {d : Nat} {k : Int}

/-- A decimal that reads back is positive, and at most half a unit above the number. -/
theorem bounds_of_readsBack (hm : 0 < m) (h : readsBack f m e d k = true) :
    0 < d ∧ (d : ℚ) * 10 ^ k ≤ (m + 1 / 2) * 2 ^ e := by
  unfold readsBack at h
  simp only [compareDecimal_eq] at h
  generalize hbelow : (if m = Nat.pow 2 (f.bits - 1) ∧ f.least < e then 1 else 2) = below at h
  obtain ⟨hlow, hhigh⟩ := Bool.and_eq_true_iff.1 h
  have hquarter : (2 : ℚ) ^ e = 4 * 2 ^ (e - 2) := by
    rw [zpow_sub₀ two_ne_zero]
    ring
  constructor
  · refine Nat.pos_of_ne_zero fun hd => ?_
    -- zero lies below the interval of a number that is not zero
    have hbelow' : below ≤ 2 := by
      rw [← hbelow]
      split_ifs <;> decide
    have hpos : (0 : ℚ) < ((4 * m - below : Nat) : ℚ) * 2 ^ (e - 2) :=
      mul_pos (by exact_mod_cast (by omega : 0 < 4 * m - below)) (Binary.two_zpow_pos _)
    rw [hd, Nat.cast_zero, zero_mul, compare_lt_iff_lt.2 hpos] at hlow
    cases hlow
  · have hle : (d : ℚ) * 10 ^ k ≤ ((4 * m + 2 : Nat) : ℚ) * 2 ^ (e - 2) := by
      rcases Bool.or_eq_true_iff.1 hhigh with h | h
      · exact (compare_lt_iff_lt.1 (beq_iff_eq.1 h)).le
      · exact (compare_eq_iff_eq.1 (beq_iff_eq.1 (Bool.and_eq_true_iff.1 h).1)).le
    push_cast at hle
    rw [hquarter]
    linarith

/-! ## The search -/

/-- What is found on a grid is a neighbour of the number. -/
theorem onGrid?_spec (h : onGrid? tie f m e k = some d) :
    readsBack f m e d k = true ∧ (d : ℚ) ≤ m * 2 ^ e * 10 ^ (-k) + 1 := by
  unfold onGrid? at h
  have hratio := Binary.scaleTen_ratio (Binary.scaleTwo m 1 e).1 (Binary.scaleTwo m 1 e).2 (-k)
  rw [Binary.scaleTwo_ratio, Nat.cast_one, div_one] at hratio
  generalize Binary.scaleTwo m 1 e = r at h hratio
  obtain ⟨n, q⟩ := r
  dsimp only at h hratio
  generalize Binary.scaleTen n q (-k) = r at h hratio
  obtain ⟨n, q⟩ := r
  dsimp only at h hratio
  have hfloor : ((n / q : Nat) : ℚ) ≤ m * 2 ^ e * 10 ^ (-k) := hratio ▸ Nat.cast_div_le
  have hnext : ((n / q + 1 : Nat) : ℚ) ≤ m * 2 ^ e * 10 ^ (-k) + 1 := by
    push_cast
    linarith
  split_ifs at h with hnear hfirst hsecond hfirst hsecond <;> cases h
  · exact ⟨hfirst, by linarith⟩
  · exact ⟨hsecond, hnext⟩
  · exact ⟨hfirst, hnext⟩
  · exact ⟨hsecond, by linarith⟩

/-- The search fails, or it finds something on one of the grids that it looks at. -/
theorem search_spec {s : Int} {count more : Nat} (h : search tie f m e s count more = (d, k)) :
    (d = 0 ∧ k = 0) ∨ ∃ c, c < count + more ∧ k = s + 1 - c ∧ onGrid? tie f m e k = some d := by
  induction more generalizing count with
  | zero =>
    cases h
    exact .inl ⟨rfl, rfl⟩
  | succ more ih =>
    rw [search] at h
    cases hgrid : onGrid? tie f m e (s + 1 - count) with
    | some found =>
      rw [hgrid] at h
      cases h
      exact .inr ⟨count, by omega, rfl, hgrid⟩
    | none =>
      rw [hgrid] at h
      exact (ih h).imp_right fun ⟨c, hc, hk, hfound⟩ => ⟨c, by omega, hk, hfound⟩

/-- Without the zeros at its end a decimal is the same number, with no greater digits. -/
theorem stripZeros_spec {d' : Nat} {k' : Int} {n : Nat} (h : stripZeros d k n = (d', k')) :
    (d' : ℚ) * 10 ^ k' = d * 10 ^ k ∧ d' ≤ d ∧ (d = 0 → d' = 0 ∧ k' = k) := by
  induction n generalizing d k with
  | zero =>
    cases h
    exact ⟨rfl, le_refl _, fun h => ⟨h, rfl⟩⟩
  | succ n ih =>
    rw [stripZeros] at h
    split_ifs at h with hzero
    · obtain ⟨hvalue, hle, -⟩ := ih h
      refine ⟨?_, hle.trans (Nat.div_le_self d 10), fun h => absurd h hzero.2⟩
      have hten : ((d / 10 : Nat) : ℚ) * 10 = d := by exact_mod_cast Nat.div_mul_cancel (Nat.dvd_of_mod_eq_zero hzero.1)
      rw [hvalue, zpow_add₀ (by norm_num), zpow_one, ← hten]
      ring
    · cases h
      exact ⟨rfl, le_refl _, fun h => ⟨h, rfl⟩⟩

/-- A ratio is below the power of ten behind its scientific exponent. -/
theorem lt_scientific {n d : Nat} (hd : 0 < d) (h : d ≤ n) : (n : ℚ) / d < 10 ^ (scientific n d + 1) := by
  have hlength : n / d < 10 ^ (Nat.toDigits 10 (n / d)).length :=
    (Nat.length_toDigits_le_iff (by decide) (List.length_pos_iff.2 Nat.toDigits_ne_nil)).1 (le_refl _)
  unfold scientific
  rw [if_pos h, Int.sub_add_cancel, zpow_natCast, div_lt_iff₀ (by exact_mod_cast hd)]
  exact_mod_cast (Nat.div_lt_iff_lt_mul hd).1 hlength

/-- The shortest decimal of a number is at most half a unit above it, and it has no more digits than are looked for
if the number is at least one; or there is none, and zero stands for it. -/
theorem decimal_spec (hm : 0 < m) (h : decimal tie f m e = (d, k)) :
    (d = 0 ∧ k = 0) ∨
      (0 < d ∧ (d : ℚ) * 10 ^ k ≤ (m + 1 / 2) * 2 ^ e ∧ (1 ≤ (m : ℚ) * 2 ^ e → d ≤ 10 ^ 17)) := by
  unfold decimal at h
  have hden := Binary.scaleTwo_snd_pos m Nat.one_pos e
  have hratio := Binary.scaleTwo_ratio m 1 e
  rw [Nat.cast_one, div_one] at hratio
  generalize Binary.scaleTwo m 1 e = r at h hden hratio
  obtain ⟨n, q⟩ := r
  dsimp only at h hden hratio
  cases hs : search tie f m e (scientific n q) 1 17 with
  | mk digits exponent =>
    rw [hs] at h
    obtain ⟨hvalue, hle, hzero⟩ := stripZeros_spec h
    rcases search_spec hs with ⟨rfl, rfl⟩ | ⟨c, hc, hk, hgrid⟩
    · exact .inl (hzero rfl)
    · obtain ⟨hback, hnear⟩ := onGrid?_spec hgrid
      obtain ⟨hpos, hupper⟩ := bounds_of_readsBack hm hback
      refine .inr ⟨?_, hvalue ▸ hupper, fun hone => hle.trans ?_⟩
      · have hvalue' : (0 : ℚ) < d * 10 ^ k := hvalue ▸ mul_pos (by exact_mod_cast hpos) (ten_zpow_pos _)
        exact_mod_cast (mul_pos_iff_of_pos_right (ten_zpow_pos k)).1 hvalue'
      · have hqn : q ≤ n := by
          rw [← hratio, le_div_iff₀ (by exact_mod_cast hden), one_mul] at hone
          exact_mod_cast hone
        have hbelow := lt_scientific hden hqn
        -- on the grid the number has at most `c` digits
        have hdigits : (m : ℚ) * 2 ^ e * 10 ^ (-exponent) < 10 ^ c := by
          calc (m : ℚ) * 2 ^ e * 10 ^ (-exponent)
              < 10 ^ (scientific n q + 1) * 10 ^ (-exponent) :=
                mul_lt_mul_of_pos_right (hratio ▸ hbelow) (ten_zpow_pos _)
            _ = 10 ^ c := by
                rw [← zpow_add₀ (by norm_num), ← zpow_natCast]
                congr 1
                omega
        have hlt : (digits : ℚ) < ((10 ^ c + 1 : Nat) : ℚ) := by
          push_cast
          linarith
        have hlt' : digits < 10 ^ c + 1 := by exact_mod_cast hlt
        have : 10 ^ c ≤ 10 ^ 17 := Nat.pow_le_pow_right (by decide) (by omega)
        omega

end Dialogue.Shortest
