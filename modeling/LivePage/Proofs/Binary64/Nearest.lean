import LivePage.Proofs.Binary64.Rounding
import Mathlib.Tactic.Linarith
import Mathlib.Tactic.NormNum
import Mathlib.Tactic.GCongr

/-!
# Rounding to the nearest value

A number that is not a binary64 value is rounded to one with 53 binary places.  No number
with 53 places is nearer, so rounding keeps what is on one side of such a number on that
side, and it moves a number that is not tiny by at most one part in `2 ^ 53`.
-/

namespace LivePage

/-! ## The nearest natural number -/

/-- The natural number nearest to `q`, and the even one of two that are equally near. -/
structure IsNearestEven (q : ℚ) (n : ℕ) : Prop where
  near : |(n : ℚ) - q| ≤ 1 / 2
  even_of_tie : |(n : ℚ) - q| = 1 / 2 → n % 2 = 0

namespace IsNearestEven

variable {q q' : ℚ} {n n' : ℕ}

theorem of_abs_lt (h : |(n : ℚ) - q| < 1 / 2) : IsNearestEven q n where
  near := h.le
  even_of_tie htie := absurd htie h.ne

theorem mono (h : IsNearestEven q n) (h' : IsNearestEven q' n') (hq : q ≤ q') : n ≤ n' := by
  by_contra hlt
  have hstep : (n' : ℚ) + 1 ≤ n := by exact_mod_cast not_le.mp hlt
  have hhigh := (abs_le.mp h.near).2
  have hlow := (abs_le.mp h'.near).1
  have htie : |(n : ℚ) - q| = 1 / 2 := le_antisymm h.near (le_abs.mpr (Or.inl (by linarith)))
  have htie' : |(n' : ℚ) - q'| = 1 / 2 :=
    le_antisymm h'.near (le_abs.mpr (Or.inr (by linarith)))
  have hneighbour : n = n' + 1 := by
    have hle : (n : ℚ) ≤ n' + 1 := by linarith
    exact Nat.le_antisymm (by exact_mod_cast hle) (by exact_mod_cast hstep)
  have heven := h.even_of_tie htie
  have heven' := h'.even_of_tie htie'
  omega

theorem unique (h : IsNearestEven q n) (h' : IsNearestEven q n') : n = n' :=
  Nat.le_antisymm (h.mono h' le_rfl) (h'.mono h le_rfl)

theorem natCast (n : ℕ) : IsNearestEven n n :=
  of_abs_lt (by norm_num)

theorem le_of_lt (h : IsNearestEven q n) {k : ℕ} (hk : q < k + 1 / 2) : n ≤ k := by
  have hhigh := (abs_le.mp h.near).2
  have hlt : (n : ℚ) < k + 1 := by linarith
  exact Nat.le_of_lt_succ (by exact_mod_cast hlt)

/-- No other natural number is nearer. -/
theorem abs_sub_le (h : IsNearestEven q n) (k : ℕ) : |(n : ℚ) - q| ≤ |(k : ℚ) - q| := by
  rcases eq_or_ne n k with rfl | hne
  · exact le_rfl
  · have hfar : (1 : ℚ) ≤ |(n : ℚ) - k| := by
      have hint : 1 ≤ |(n : ℤ) - k| := Int.one_le_abs (sub_ne_zero.mpr (by exact_mod_cast hne))
      exact_mod_cast hint
    have htriangle := abs_sub_abs_le_abs_sub ((n : ℚ) - k) (n - q)
    have hnear := h.near
    rw [sub_sub_sub_cancel_left, abs_sub_comm q] at htriangle
    linarith

end IsNearestEven

theorem isNearestEven_roundHalfEven (num : ℕ) {den : ℕ} (hden : 0 < den) :
    IsNearestEven ((num : ℚ) / den) (roundHalfEven num den) := by
  have hdenQ : (0 : ℚ) < den := by exact_mod_cast hden
  have hlt : ((num % den : ℕ) : ℚ) < den := by exact_mod_cast Nat.mod_lt num hden
  have hsplit : (num : ℚ) / den = (num / den : ℕ) + (num % den : ℕ) / den := by
    rw [div_eq_iff hdenQ.ne', add_mul, div_mul_cancel₀ _ hdenQ.ne', mul_comm]
    exact_mod_cast (Nat.div_add_mod num den).symm
  rw [hsplit]
  simp only [roundHalfEven]
  generalize num / den = quotient
  generalize num % den = remainder at hlt
  have hdown : |(quotient : ℚ) - (quotient + remainder / den)| = remainder / den := by
    rw [sub_add_cancel_left, abs_neg, abs_of_nonneg (by positivity)]
  have hup : |((quotient + 1 : ℕ) : ℚ) - (quotient + remainder / den)| =
      1 - remainder / den := by
    rw [Nat.cast_add_one, add_sub_add_left_eq_sub, abs_of_nonneg]
    rw [sub_nonneg, div_le_one hdenQ]
    exact hlt.le
  have htie (hbelow : ¬2 * remainder < den) (habove : ¬den < 2 * remainder) :
      (remainder : ℚ) / den = 1 / 2 := by
    have hhalf : (2 : ℚ) * remainder = den := by
      exact_mod_cast Nat.le_antisymm (not_lt.mp habove) (not_lt.mp hbelow)
    rw [div_eq_iff hdenQ.ne']
    linarith
  split_ifs with hbelow habove heven
  · apply IsNearestEven.of_abs_lt
    rw [hdown, div_lt_iff₀ hdenQ]
    have hbelowQ : (2 : ℚ) * remainder < den := by exact_mod_cast hbelow
    linarith
  · apply IsNearestEven.of_abs_lt
    rw [hup, sub_lt_comm, lt_div_iff₀ hdenQ]
    have haboveQ : (den : ℚ) < 2 * remainder := by exact_mod_cast habove
    linarith
  · exact ⟨by rw [hdown, htie hbelow habove], fun _ => heven⟩
  · refine ⟨?_, fun _ => by omega⟩
    rw [hup, htie hbelow habove]
    norm_num

namespace Binary64

/-! ## Numbers with 53 binary places -/

/-- A number is a multiple of a power of two with at most 53 binary places, none of them
below the least one of a value. -/
def Fits (y : ℚ) : Prop :=
  ∃ (significand : ℕ) (place : ℤ), significand ≤ 2 ^ 53 ∧ -1074 ≤ place ∧
    y = significand * 2 ^ place

/-- A number is rounded to 53 binary places, or to fewer where they would be below the least
one. -/
structure Rounds (v : ℚ) (significand : ℕ) (place : ℤ) : Prop where
  nearest : IsNearestEven (v / 2 ^ place) significand
  least_le : -1074 ≤ place
  lt_zpow : v < 2 ^ (place + 53)
  full : place = -1074 ∨ (2 : ℚ) ^ (place + 52) ≤ v

theorem fits_natCast {n : ℕ} (hn : n ≤ 2 ^ 53) : Fits n :=
  ⟨n, 0, hn, by omega, by rw [zpow_zero, mul_one]⟩

theorem fits_zero : Fits 0 := by
  have hfits := fits_natCast (Nat.zero_le (2 ^ 53))
  rwa [Nat.cast_zero] at hfits

theorem fits_one : Fits 1 := by
  have hfits := fits_natCast (n := 1) Nat.one_le_two_pow
  rwa [Nat.cast_one] at hfits

theorem fits_zpow {e : ℤ} (he : -1074 ≤ e) : Fits (2 ^ e) :=
  ⟨1, e, by norm_num, he, by rw [Nat.cast_one, one_mul]⟩

theorem Fits.mul_pow {y : ℚ} (hy : Fits y) (k : ℕ) : Fits (y * 2 ^ k) := by
  obtain ⟨n, e, hn, he, rfl⟩ := hy
  refine ⟨n, e + k, hn, by omega, ?_⟩
  rw [zpow_add₀ two_ne_zero, zpow_natCast, mul_assoc]

theorem two_pow_mul_zpow (k : ℕ) (e : ℤ) : ((2 ^ k : ℕ) : ℚ) * 2 ^ e = 2 ^ (e + k) := by
  rw [zpow_add₀ two_ne_zero, zpow_natCast, Nat.cast_pow, Nat.cast_ofNat, mul_comm]

/-- A large number with 53 binary places is an even one. -/
theorem Fits.exists_two_mul {y : ℚ} (hy : Fits y) (hlarge : (2 ^ 53 : ℕ) ≤ y) :
    ∃ k : ℕ, y = 2 * k := by
  obtain ⟨n, e, hn, -, rfl⟩ := hy
  have hnQ : (n : ℚ) ≤ (2 ^ 53 : ℕ) := by exact_mod_cast hn
  have hhalf : ((2 ^ 53 : ℕ) : ℚ) = 2 * (2 ^ 52 : ℕ) := by norm_num
  rcases le_or_gt e 0 with he | he
  · refine ⟨2 ^ 52, le_antisymm ?_ ?_⟩
    · calc
        (n : ℚ) * 2 ^ e ≤ n * 1 := by
          gcongr
          exact zpow_le_one_of_nonpos₀ one_le_two he
        _ ≤ 2 * (2 ^ 52 : ℕ) := by linarith
    · linarith
  · obtain ⟨i, rfl⟩ := Int.le.dest (Int.add_one_le_of_lt he)
    refine ⟨n * 2 ^ i, ?_⟩
    rw [zpow_add₀ two_ne_zero, zpow_natCast, zero_add, zpow_one, Nat.cast_mul, Nat.cast_pow,
      Nat.cast_ofNat, mul_left_comm]

namespace Rounds

variable {v y : ℚ} {n : ℕ} {place : ℤ}

theorem le_pow (h : Rounds v n place) : n ≤ 2 ^ 53 := by
  refine h.nearest.mono (IsNearestEven.natCast (2 ^ 53)) ?_
  rw [div_le_iff₀ (by positivity), two_pow_mul_zpow]
  exact h.lt_zpow.le

theorem fits (h : Rounds v n place) : Fits (n * 2 ^ place) :=
  ⟨n, place, h.le_pow, h.least_le, rfl⟩

theorem full_or_least (h : Rounds v n place) : 2 ^ 52 ≤ n ∨ place = -1074 := by
  refine h.full.symm.imp_left fun hfull => ?_
  refine (IsNearestEven.natCast (2 ^ 52)).mono h.nearest ?_
  rw [le_div_iff₀ (by positivity), two_pow_mul_zpow]
  exact hfull

/-- How far rounding moves a number, told in steps. -/
theorem abs_sub_eq (k : ℕ) :
    |(k : ℚ) * 2 ^ place - v| = |(k : ℚ) - v / 2 ^ place| * 2 ^ place := by
  have hplace : (0 : ℚ) < 2 ^ place := by positivity
  rw [← abs_of_pos hplace, ← abs_mul, abs_of_pos hplace, sub_mul,
    div_mul_cancel₀ _ hplace.ne']

/-- No number with 53 binary places is nearer. -/
theorem abs_sub_le (h : Rounds v n place) (hy : Fits y) :
    |(n : ℚ) * 2 ^ place - v| ≤ |y - v| := by
  obtain ⟨k, e, hk, he, rfl⟩ := hy
  have hgrid (k : ℕ) : |(n : ℚ) * 2 ^ place - v| ≤ |(k : ℚ) * 2 ^ place - v| := by
    rw [abs_sub_eq, abs_sub_eq]
    exact mul_le_mul_of_nonneg_right (h.nearest.abs_sub_le k) (by positivity)
  rcases le_or_gt place e with hle | hlt
  · obtain ⟨i, rfl⟩ := Int.le.dest hle
    have hsteps : (k : ℚ) * 2 ^ (place + i) = (k * 2 ^ i : ℕ) * 2 ^ place := by
      rw [zpow_add₀ two_ne_zero, zpow_natCast, Nat.cast_mul, Nat.cast_pow, Nat.cast_ofNat,
        mul_assoc, mul_comm (2 ^ place)]
    rw [hsteps]
    exact hgrid _
  · have hfull : (2 ^ 52 : ℕ) * (2 : ℚ) ^ place ≤ v := by
      rw [two_pow_mul_zpow]
      exact h.full.resolve_left (by omega)
    have hbelow : (k : ℚ) * 2 ^ e ≤ (2 ^ 52 : ℕ) * 2 ^ place := by
      calc
        (k : ℚ) * 2 ^ e ≤ (2 ^ 53 : ℕ) * 2 ^ e := by
          have hkQ : (k : ℚ) ≤ (2 ^ 53 : ℕ) := by exact_mod_cast hk
          gcongr
        _ = 2 ^ (e + 53) := two_pow_mul_zpow 53 e
        _ ≤ 2 ^ (place + 52) := zpow_le_zpow_right₀ one_le_two (by omega)
        _ = (2 ^ 52 : ℕ) * 2 ^ place := (two_pow_mul_zpow 52 place).symm
    refine (hgrid (2 ^ 52)).trans ?_
    rw [abs_of_nonpos (by linarith), abs_of_nonpos (by linarith)]
    linarith

/-- A number that is not tiny moves by at most one part in `2 ^ 53`. -/
theorem relative (h : Rounds v n place) (hv : 2 ^ (-1022 : ℤ) ≤ v) :
    |(n : ℚ) * 2 ^ place - v| ≤ v / 2 ^ 53 := by
  have hstep : |(n : ℚ) * 2 ^ place - v| ≤ 2 ^ (place - 1) := by
    rw [abs_sub_eq, zpow_sub_one₀ two_ne_zero, mul_comm _ (2 : ℚ)⁻¹, ← one_div]
    exact mul_le_mul_of_nonneg_right h.nearest.near (by positivity)
  have hlow : (2 : ℚ) ^ (place + 52) ≤ v := by
    rcases h.full with rfl | hfull
    · exact hv
    · exact hfull
  calc
    |(n : ℚ) * 2 ^ place - v| ≤ 2 ^ (place - 1) := hstep
    _ = 2 ^ (place + 52) / 2 ^ 53 := by
      rw [← zpow_natCast, ← zpow_sub₀ two_ne_zero]
      congr 1
      omega
    _ ≤ v / 2 ^ 53 := by gcongr

end Rounds

/-! ## What a number is rounded to -/

/-- A number with 53 binary places is what another one is rounded to. -/
def RoundsTo (v a : ℚ) : Prop :=
  ∃ (significand : ℕ) (place : ℤ), Rounds v significand place ∧ significand * 2 ^ place = a

namespace RoundsTo

variable {v a y : ℚ}

theorem fits (h : RoundsTo v a) : Fits a := by
  obtain ⟨n, place, hround, rfl⟩ := h
  exact hround.fits

theorem abs_sub_le (h : RoundsTo v a) (hy : Fits y) : |a - v| ≤ |y - v| := by
  obtain ⟨n, place, hround, rfl⟩ := h
  exact hround.abs_sub_le hy

theorem eq_of_fits (h : RoundsTo v a) (hv : Fits v) : a = v := by
  have hnear := h.abs_sub_le hv
  rw [sub_self, abs_zero] at hnear
  exact sub_eq_zero.mp (abs_nonpos_iff.mp hnear)

theorem le_of_le (h : RoundsTo v a) (hy : Fits y) (hle : y ≤ v) : y ≤ a := by
  have hnear := h.abs_sub_le hy
  rw [abs_of_nonpos (sub_nonpos.mpr hle)] at hnear
  have hlow := (abs_le.mp hnear).1
  linarith

theorem ge_of_ge (h : RoundsTo v a) (hy : Fits y) (hle : v ≤ y) : a ≤ y := by
  have hnear := h.abs_sub_le hy
  rw [abs_of_nonneg (sub_nonneg.mpr hle)] at hnear
  have hhigh := (abs_le.mp hnear).2
  linarith

theorem lt_of_lt (h : RoundsTo v a) (hy : Fits y) (hlt : y < a) : y < v :=
  lt_of_not_ge fun hle => hlt.not_ge (h.ge_of_ge hy hle)

theorem relative (h : RoundsTo v a) {e : ℤ} (he : -1022 ≤ e) (hv : v = 0 ∨ 2 ^ e ≤ v) :
    |a - v| ≤ v / 2 ^ 53 := by
  rcases hv with rfl | hv
  · rw [h.eq_of_fits fits_zero, sub_self, abs_zero, zero_div]
  · obtain ⟨n, place, hround, rfl⟩ := h
    exact hround.relative ((zpow_le_zpow_right₀ one_le_two he).trans hv)

/-- Less than one is lost when it is added to a large number. -/
theorem le_of_add_lt_one {p : ℚ} (h : RoundsTo (y + p) a) (hy : Fits y)
    (hlarge : (2 ^ 53 : ℕ) ≤ y) (hp : 0 ≤ p) (hlt : p < 1) : a ≤ y := by
  by_contra hmore
  have hnear := h.abs_sub_le hy
  rw [sub_add_cancel_left, abs_neg, abs_of_nonneg hp] at hnear
  have hhigh := (abs_le.mp hnear).2
  obtain ⟨j, hj⟩ := hy.exists_two_mul hlarge
  obtain ⟨k, hk⟩ := h.fits.exists_two_mul (hlarge.trans (not_le.mp hmore).le)
  have hstep : j + 1 ≤ k := by
    have hlt : (j : ℚ) < k := by linarith
    exact_mod_cast hlt
  have hstepQ : (j : ℚ) + 1 ≤ k := by exact_mod_cast hstep
  linarith

end RoundsTo
end Binary64
end LivePage
