import LivePage.Binary64.Basic
import Mathlib.Algebra.Order.Field.Power
import Mathlib.Data.Rat.Cast.Order
import Mathlib.Tactic.FieldSimp
import Mathlib.Tactic.Positivity

/-!
# Rounding of representable numbers

A quotient of natural numbers that is equal to a binary64 value is rounded to that
value: the exponent of its leading place is found exactly, and nothing is cut off.
-/

namespace LivePage

/-- Of a power with an integer exponent, one part stands above the fraction bar and one
below it. -/
theorem zpow_eq_div {b : ℕ} (hb : 0 < b) (e : ℤ) :
    (b : ℚ) ^ e = (Nat.pow b e.toNat : ℕ) / (Nat.pow b (-e).toNat : ℕ) := by
  have hne : (b : ℚ) ≠ 0 := by exact_mod_cast hb.ne'
  simp only [Nat.pow_eq, Nat.cast_pow]
  rw [← zpow_natCast, ← zpow_natCast, ← zpow_sub₀ hne]
  congr 1
  omega

theorem roundHalfEven_mul (quotient : ℕ) {den : ℕ} (hden : 0 < den) :
    roundHalfEven (quotient * den) den = quotient := by
  rw [roundHalfEven, Nat.mul_mod_left, Nat.mul_div_cancel _ hden, Nat.mul_zero,
    if_pos hden]

namespace Binary64

/-! ## The leading place -/

section FloorLog2

variable {num den : ℕ}

theorem zpow_le_div_iff (hden : 0 < den) (e : ℤ) :
    (2 : ℚ) ^ e ≤ num / den ↔
      den * Nat.pow 2 e.toNat ≤ num * Nat.pow 2 (-e).toNat := by
  have hbelow : (0 : ℚ) < (Nat.pow 2 (-e).toNat : ℕ) := by
    exact_mod_cast Nat.pow_pos Nat.two_pos
  have hdenQ : (0 : ℚ) < den := by exact_mod_cast hden
  have hpow := zpow_eq_div Nat.two_pos e
  rw [Nat.cast_ofNat] at hpow
  rw [hpow, div_le_div_iff₀ hbelow hdenQ, mul_comm]
  exact_mod_cast Iff.rfl

/-- A quotient lies between the powers of two at the difference of the logarithms of its
parts, one place up and one down. -/
theorem div_lt_zpow_of_log2 (hnum : 0 < num) (hden : 0 < den) {e : ℤ}
    (he : e = (Nat.log2 num : ℤ) - Nat.log2 den) :
    (2 : ℚ) ^ (e - 1) ≤ num / den ∧ (num : ℚ) / den < 2 ^ (e + 1) := by
  have hdenQ : (0 : ℚ) < den := by exact_mod_cast hden
  have hnumLow : (2 : ℚ) ^ (Nat.log2 num : ℤ) ≤ num := by
    rw [zpow_natCast]
    exact_mod_cast Nat.log2_self_le hnum.ne'
  have hnumHigh : (num : ℚ) < 2 ^ (Nat.log2 num + 1 : ℤ) := by
    exact_mod_cast Nat.lt_log2_self (n := num)
  have hdenLow : (2 : ℚ) ^ (Nat.log2 den : ℤ) ≤ den := by
    rw [zpow_natCast]
    exact_mod_cast Nat.log2_self_le hden.ne'
  have hdenHigh : (den : ℚ) < 2 ^ (Nat.log2 den + 1 : ℤ) := by
    exact_mod_cast Nat.lt_log2_self (n := den)
  constructor
  · rw [le_div_iff₀ hdenQ]
    calc
      (2 : ℚ) ^ (e - 1) * den ≤ 2 ^ (e - 1) * 2 ^ (Nat.log2 den + 1 : ℤ) := by gcongr
      _ = 2 ^ (Nat.log2 num : ℤ) := by
        rw [← zpow_add₀ two_ne_zero]
        congr 1
        omega
      _ ≤ num := hnumLow
  · rw [div_lt_iff₀ hdenQ]
    calc
      (num : ℚ) < 2 ^ (Nat.log2 num + 1 : ℤ) := hnumHigh
      _ = 2 ^ (e + 1) * 2 ^ (Nat.log2 den : ℤ) := by
        rw [← zpow_add₀ two_ne_zero]
        congr 1
        omega
      _ ≤ 2 ^ (e + 1) * den := by gcongr

theorem floorLog2_spec (hnum : 0 < num) (hden : 0 < den) :
    (2 : ℚ) ^ floorLog2 num den ≤ num / den ∧
      (num : ℚ) / den < 2 ^ (floorLog2 num den + 1) := by
  obtain ⟨hlow, hhigh⟩ := div_lt_zpow_of_log2 hnum hden rfl
  simp only [floorLog2, ← zpow_le_div_iff hden]
  split
  · rename_i hle
    exact ⟨hle, hhigh⟩
  · rename_i hnot
    rw [sub_add_cancel]
    exact ⟨hlow, not_le.mp hnot⟩

theorem floorLog2_eq (hnum : 0 < num) (hden : 0 < den) {e : ℤ}
    (hlow : (2 : ℚ) ^ e ≤ num / den) (hhigh : (num : ℚ) / den < 2 ^ (e + 1)) :
    floorLog2 num den = e := by
  obtain ⟨hlow', hhigh'⟩ := floorLog2_spec hnum hden
  have hle := (zpow_lt_zpow_iff_right₀ one_lt_two).mp (hlow.trans_lt hhigh')
  have hge := (zpow_lt_zpow_iff_right₀ one_lt_two).mp (hlow'.trans_lt hhigh)
  omega

end FloorLog2

/-! ## Exact quotients -/

variable {negative : Bool} {significand : ℕ} {exponent : ℤ} {num den : ℕ}

theorem ofParts_of_canonical (h : Canonical significand exponent) :
    ofParts negative significand exponent = .finite negative significand exponent h :=
  dif_pos h

/-- The last place of a quotient that is a value is that of the value. -/
theorem lastPlace_of_eq (h : Canonical significand exponent)
    (hnum : 0 < num) (hden : 0 < den)
    (heq : (num : ℚ) / den = significand * 2 ^ exponent) :
    lastPlace num den = exponent := by
  obtain ⟨hlt, hleast, -, hfull⟩ := h
  rw [Nat.pow_eq] at hlt hfull
  have hpow : (0 : ℚ) < 2 ^ exponent := by positivity
  have hhigh : (num : ℚ) / den < 2 ^ (exponent + 53) := by
    rw [heq, add_comm, zpow_add₀ two_ne_zero]
    exact mul_lt_mul_of_pos_right (by exact_mod_cast hlt) hpow
  rw [lastPlace]
  rcases hfull with hfull | hfull
  · have hlow : (2 : ℚ) ^ (exponent + 52) ≤ num / den := by
      rw [heq, add_comm, zpow_add₀ two_ne_zero]
      exact mul_le_mul_of_nonneg_right (by exact_mod_cast hfull) hpow.le
    rw [floorLog2_eq hnum hden hlow (by rwa [add_assoc])]
    omega
  · have hbelow := (floorLog2_spec hnum hden).1.trans_lt hhigh
    have hlog := (zpow_lt_zpow_iff_right₀ one_lt_two).mp hbelow
    omega

/-- Nothing is cut off from a quotient that is a value. -/
theorem mul_pow_of_eq (hden : 0 < den)
    (heq : (num : ℚ) / den = significand * 2 ^ exponent) :
    num * Nat.pow 2 (-exponent).toNat = significand * (den * Nat.pow 2 exponent.toNat) := by
  have hdenQ : (den : ℚ) ≠ 0 := by exact_mod_cast hden.ne'
  have hbelow : ((Nat.pow 2 (-exponent).toNat : ℕ) : ℚ) ≠ 0 := by
    exact_mod_cast (Nat.pow_pos Nat.two_pos).ne'
  have hpow := zpow_eq_div Nat.two_pos exponent
  rw [Nat.cast_ofNat] at hpow
  rw [hpow, ← mul_div_assoc, div_eq_div_iff hdenQ hbelow] at heq
  have hnat : num * Nat.pow 2 (-exponent).toNat =
      significand * Nat.pow 2 exponent.toNat * den := by
    exact_mod_cast heq
  rw [hnat, mul_assoc, mul_comm den]

/-- A quotient that is a value is rounded to that value. -/
theorem ofRatio_of_eq (h : Canonical significand exponent) (hden : 0 < den)
    (heq : (num : ℚ) / den = significand * 2 ^ exponent) :
    ofRatio negative num den = .finite negative significand exponent h := by
  have hdenQ : (den : ℚ) ≠ 0 := by exact_mod_cast hden.ne'
  rcases Nat.eq_zero_or_pos significand with rfl | hpos
  · have hnum : num = 0 := by
      rw [Nat.cast_zero, zero_mul, div_eq_zero_iff] at heq
      exact_mod_cast heq.resolve_right hdenQ
    obtain rfl : exponent = -1074 := by
      obtain ⟨-, -, -, hfull | hleast⟩ := h
      · exact absurd hfull (by decide)
      · exact hleast
    rw [ofRatio, if_pos hnum, ofParts_of_canonical h]
  · have hnum : 0 < num := by
      apply Nat.pos_of_ne_zero
      rintro rfl
      have hzero : (significand : ℚ) * 2 ^ exponent ≠ 0 := by positivity
      exact hzero (by rw [← heq, Nat.cast_zero, zero_div])
    have hfits : significand ≠ Nat.pow 2 53 := h.1.ne
    have hplaces : 0 < den * Nat.pow 2 exponent.toNat :=
      Nat.mul_pos hden (Nat.pow_pos Nat.two_pos)
    simp only [ofRatio, if_neg hnum.ne', lastPlace_of_eq h hnum hden heq,
      mul_pow_of_eq hden heq, roundHalfEven_mul _ hplaces, if_neg hfits]
    exact ofParts_of_canonical h

end Binary64
end LivePage
