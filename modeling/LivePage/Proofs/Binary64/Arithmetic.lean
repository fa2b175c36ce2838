import LivePage.Proofs.Binary64.Nearest
import LivePage.Proofs.Binary64.Order

/-!
# Arithmetic by exact results

The sum, the product and the quotient of values are the exact ones, rounded, or infinity
where these are too large.  So powers of two are multiplied exactly, and a power of a
number that is at least one is at least one.
-/

namespace LivePage
namespace Binary64

/-! ## The number of a value -/

/-- A value is a number, with no minus sign. -/
def HasValue (x : Binary64) (a : ℚ) : Prop :=
  ∃ (significand : ℕ) (exponent : ℤ) (h : Canonical significand exponent),
    x = .finite false significand exponent h ∧ significand * 2 ^ exponent = a

/-- A value is the one that a number is rounded to, which is infinity where the rounded
number is beyond the largest value. -/
def IsRoundingOf (x : Binary64) (v : ℚ) : Prop :=
  ∃ a, RoundsTo v a ∧ (x.HasValue a ∨ 2 ^ (1024 : ℤ) ≤ a ∧ x = .infinity false)

variable {x y : Binary64} {a b v : ℚ}

theorem cast_pow_two {k : ℕ} {e : ℤ} (he : e = k) : ((Nat.pow 2 k : ℕ) : ℚ) = 2 ^ e := by
  rw [he, Nat.pow_eq, Nat.cast_pow, Nat.cast_ofNat, zpow_natCast]

/-- How often the least positive value goes into one. -/
@[irreducible] def stepsInOne : ℕ := Nat.pow 2 1074

/-- With a variable for the exponent, no power is computed to compare two of them. -/
theorem exists_stepsInOne_eq : ∃ k, 1074 = k ∧ stepsInOne = Nat.pow 2 k := by
  delta stepsInOne
  generalize 1074 = k
  exact ⟨k, rfl, rfl⟩

theorem stepsInOne_pos : 0 < stepsInOne := by
  obtain ⟨k, -, hk⟩ := exists_stepsInOne_eq
  rw [hk]
  exact Nat.pow_pos Nat.two_pos

theorem cast_stepsInOne : (stepsInOne : ℚ) = 2 ^ (1074 : ℤ) := by
  obtain ⟨k, hplaces, hk⟩ := exists_stepsInOne_eq
  rw [hk]
  exact cast_pow_two (by omega)

theorem stepsInOne_mul_self : stepsInOne * stepsInOne = Nat.pow 2 2148 := by
  obtain ⟨k, hplaces, hk⟩ := exists_stepsInOne_eq
  have htwice : 2148 = k + k := by omega
  rw [hk, htwice]
  exact (Nat.pow_add 2 k k).symm

theorem cast_stepsInOne_pos : (0 : ℚ) < stepsInOne := by
  exact_mod_cast stepsInOne_pos

namespace HasValue

theorem fits (h : x.HasValue a) : Fits a := by
  obtain ⟨significand, exponent, hcanonical, -, rfl⟩ := h
  exact ⟨significand, exponent, hcanonical.1.le, hcanonical.2.1, rfl⟩

theorem nonneg (h : x.HasValue a) : 0 ≤ a := by
  obtain ⟨significand, exponent, -, -, rfl⟩ := h
  positivity

theorem lt_zpow (h : x.HasValue a) : a < 2 ^ (1024 : ℤ) := by
  obtain ⟨significand, exponent, hcanonical, -, rfl⟩ := h
  have hsignificand : (significand : ℚ) < (2 ^ 53 : ℕ) := by exact_mod_cast hcanonical.1
  calc
    (significand : ℚ) * 2 ^ exponent < (2 ^ 53 : ℕ) * 2 ^ exponent := by gcongr
    _ = 2 ^ (exponent + 53) := two_pow_mul_zpow 53 exponent
    _ ≤ 2 ^ (1024 : ℤ) := zpow_le_zpow_right₀ one_le_two (by have := hcanonical.2.2.1; omega)

theorem isFinite (h : x.HasValue a) : x.isFinite = true := by
  obtain ⟨significand, exponent, hcanonical, rfl, -⟩ := h
  rfl

theorem magnitude_eq (h : x.HasValue a) : (x.magnitude : ℚ) = a * stepsInOne := by
  obtain ⟨significand, exponent, hcanonical, rfl, rfl⟩ := h
  have hplace : exponent + 1074 = ((exponent + 1074).toNat : ℤ) :=
    (Int.toNat_of_nonneg (by have := hcanonical.2.1; omega)).symm
  rw [magnitude, Nat.cast_mul, cast_pow_two hplace, zpow_add₀ two_ne_zero, mul_assoc,
    cast_stepsInOne]

theorem units_eq (h : x.HasValue a) : x.units = x.magnitude := by
  obtain ⟨significand, exponent, hcanonical, rfl, -⟩ := h
  rfl

theorem magnitude_pos (h : x.HasValue a) (ha : 0 < a) : 0 < x.magnitude := by
  have hmagnitude : (0 : ℚ) < x.magnitude := by
    rw [h.magnitude_eq]
    exact mul_pos ha cast_stepsInOne_pos
  exact_mod_cast hmagnitude

theorem lt_iff (hx : x.HasValue a) (hy : y.HasValue b) : x.lt y = true ↔ a < b := by
  have hunits : x.lt y = decide (x.units < y.units) := by
    obtain ⟨_, _, _, rfl, -⟩ := hx
    obtain ⟨_, _, _, rfl, -⟩ := hy
    rfl
  rw [hunits, decide_eq_true_iff, hx.units_eq, hy.units_eq, Int.ofNat_lt,
    ← Nat.cast_lt (α := ℚ), hx.magnitude_eq, hy.magnitude_eq]
  exact mul_lt_mul_iff_of_pos_right cast_stepsInOne_pos

theorem le_iff (hx : x.HasValue a) (hy : y.HasValue b) : x.le y = true ↔ a ≤ b := by
  have hle : x.le y = !y.lt x := by
    obtain ⟨_, _, _, rfl, -⟩ := hx
    obtain ⟨_, _, _, rfl, -⟩ := hy
    rfl
  rw [hle, Bool.not_eq_true', Bool.eq_false_iff, Ne, hy.lt_iff hx, not_lt]

theorem max_of_lt (hx : x.HasValue a) (hy : y.HasValue b) (hlt : b < a) : x.max y = x := by
  have hnan {z : Binary64} {c : ℚ} (hz : z.HasValue c) : z.isNaN = false := by
    obtain ⟨_, _, _, rfl, -⟩ := hz
    rfl
  simp [Binary64.max, hnan hx, hnan hy, (hy.lt_iff hx).mpr hlt]

end HasValue

/-! ## Rounded quotients -/

/-- The parts of a rounded number, with fewer than 54 places, make up its value. -/
theorem isRoundingOf_ofParts {significand : ℕ} {place : ℤ}
    (hround : RoundsTo v (significand * 2 ^ place)) (hlt : significand < 2 ^ 53)
    (hleast : -1074 ≤ place) (hfull : 2 ^ 52 ≤ significand ∨ place = -1074) :
    IsRoundingOf (ofParts false significand place) v := by
  refine ⟨significand * 2 ^ place, hround, ?_⟩
  rw [ofParts]
  split
  · rename_i hcanonical
    exact Or.inl ⟨significand, place, hcanonical, rfl, rfl⟩
  · rename_i hnot
    refine Or.inr ⟨?_, rfl⟩
    have hplace : 971 < place := by
      by_contra hle
      exact hnot ⟨hlt, hleast, not_lt.mp hle, hfull⟩
    have hlow : ((2 ^ 52 : ℕ) : ℚ) ≤ significand := by
      exact_mod_cast hfull.resolve_right (by omega)
    calc
      (2 : ℚ) ^ (1024 : ℤ) ≤ 2 ^ (place + 52) :=
        zpow_le_zpow_right₀ one_le_two (by omega)
      _ = (2 ^ 52 : ℕ) * 2 ^ place := (two_pow_mul_zpow 52 place).symm
      _ ≤ significand * 2 ^ place := by gcongr

theorem rounds_zero : Rounds 0 0 (-1074) where
  nearest := by
    rw [zero_div]
    exact IsNearestEven.natCast 0
  least_le := le_rfl
  lt_zpow := by positivity
  full := Or.inl rfl

/-- A quotient is rounded at its last place. -/
theorem rounds_lastPlace {num den : ℕ} (hnum : 0 < num) (hden : 0 < den) :
    Rounds (num / den)
      (roundHalfEven (num * Nat.pow 2 (-lastPlace num den).toNat)
        (den * Nat.pow 2 (lastPlace num den).toNat))
      (lastPlace num den) := by
  obtain ⟨hlow, hhigh⟩ := floorLog2_spec hnum hden
  refine ⟨?_, le_max_left _ _, ?_, ?_⟩
  · have hpow := zpow_eq_div Nat.two_pos (lastPlace num den)
    rw [Nat.cast_ofNat] at hpow
    rw [hpow, div_div_div_eq, ← Nat.cast_mul, ← Nat.cast_mul]
    exact isNearestEven_roundHalfEven _ (Nat.mul_pos hden (Nat.pow_pos Nat.two_pos))
  · refine hhigh.trans_le (zpow_le_zpow_right₀ one_le_two ?_)
    rw [lastPlace]
    omega
  · rcases le_or_gt (floorLog2 num den - 52) (-1074) with hle | hlt
    · exact Or.inl (max_eq_left hle)
    · rw [lastPlace, max_eq_right hlt.le, sub_add_cancel]
      exact Or.inr hlow

theorem isRoundingOf_ofRatio (num : ℕ) {den : ℕ} (hden : 0 < den) :
    IsRoundingOf (ofRatio false num den) (num / den) := by
  rcases Nat.eq_zero_or_pos num with rfl | hnum
  · rw [ofRatio, if_pos rfl, Nat.cast_zero, zero_div]
    exact isRoundingOf_ofParts ⟨0, -1074, rounds_zero, rfl⟩ (by norm_num) le_rfl (Or.inr rfl)
  · have hround := rounds_lastPlace hnum hden
    have hleast := hround.least_le
    simp only [ofRatio, if_neg hnum.ne']
    split
    · rename_i hcarry
      refine isRoundingOf_ofParts ⟨_, _, hround, ?_⟩ (by norm_num) (by omega) (Or.inl le_rfl)
      rw [hcarry, Nat.pow_eq, Nat.pow_eq, two_pow_mul_zpow, two_pow_mul_zpow]
      congr 1
      omega
    · rename_i hplaces
      exact isRoundingOf_ofParts ⟨_, _, hround, rfl⟩ (lt_of_le_of_ne hround.le_pow hplaces)
        hleast hround.full_or_least

/-! ## Operations -/

theorem isRoundingOf_ofNat (n : ℕ) : IsRoundingOf (ofNat n) n := by
  simpa [ofNat] using isRoundingOf_ofRatio n Nat.one_pos

namespace HasValue

theorem add (hx : x.HasValue a) (hy : y.HasValue b) : IsRoundingOf (x.add y) (a + b) := by
  have hsum : x.add y = ofRatio false (x.magnitude + y.magnitude) stepsInOne := by
    unfold stepsInOne
    have hunits : x.units + y.units = (x.magnitude + y.magnitude : ℕ) := by
      rw [hx.units_eq, hy.units_eq, Nat.cast_add]
    have hsign (n : ℕ) :
        (if (n : ℤ) = 0 then false && false else decide ((n : ℤ) < 0)) = false := by
      split
      · rfl
      · exact decide_eq_false (by omega)
    obtain ⟨_, _, _, rfl, -⟩ := hx
    obtain ⟨_, _, _, rfl, -⟩ := hy
    simp only [Binary64.add, hunits, Int.natAbs_natCast, isNegative]
    rw [hsign]
  have hexact : ((x.magnitude + y.magnitude : ℕ) : ℚ) / stepsInOne = a + b := by
    rw [Nat.cast_add, hx.magnitude_eq, hy.magnitude_eq, ← add_mul,
      mul_div_cancel_right₀ _ cast_stepsInOne_pos.ne']
  rw [hsum, ← hexact]
  exact isRoundingOf_ofRatio _ stepsInOne_pos

theorem mul (hx : x.HasValue a) (hy : y.HasValue b) : IsRoundingOf (x.mul y) (a * b) := by
  have hproduct :
      x.mul y = ofRatio false (x.magnitude * y.magnitude) (stepsInOne * stepsInOne) := by
    rw [stepsInOne_mul_self]
    obtain ⟨_, _, _, rfl, -⟩ := hx
    obtain ⟨_, _, _, rfl, -⟩ := hy
    rfl
  have hexact : ((x.magnitude * y.magnitude : ℕ) : ℚ) / (stepsInOne * stepsInOne : ℕ) =
      a * b := by
    rw [Nat.cast_mul, Nat.cast_mul, hx.magnitude_eq, hy.magnitude_eq, mul_mul_mul_comm,
      mul_div_cancel_right₀ _ (mul_pos cast_stepsInOne_pos cast_stepsInOne_pos).ne']
  rw [hproduct, ← hexact]
  exact isRoundingOf_ofRatio _ (Nat.mul_pos stepsInOne_pos stepsInOne_pos)

theorem divNat (hx : x.HasValue a) {n : ℕ} (hn : 0 < n) :
    IsRoundingOf (x.divNat n) (a / n) := by
  have hquotient : x.divNat n = ofRatio false x.magnitude (n * stepsInOne) := by
    unfold stepsInOne
    obtain ⟨_, _, _, rfl, -⟩ := hx
    rfl
  have hexact : (x.magnitude : ℚ) / (n * stepsInOne : ℕ) = a / n := by
    rw [Nat.cast_mul, hx.magnitude_eq, mul_div_mul_right _ _ cast_stepsInOne_pos.ne']
  rw [hquotient, ← hexact]
  exact isRoundingOf_ofRatio _ (Nat.mul_pos hn stepsInOne_pos)

theorem mul_infinity (hx : x.HasValue a) (ha : 0 < a) :
    x.mul (.infinity false) = .infinity false := by
  have hmagnitude := hx.magnitude_pos ha
  obtain ⟨_, _, _, rfl, -⟩ := hx
  exact if_neg hmagnitude.ne'

theorem isFinite_mul_infinity (hx : x.HasValue a) :
    (x.mul (.infinity false)).isFinite = false := by
  obtain ⟨significand, exponent, hcanonical, rfl, -⟩ := hx
  simp only [Binary64.mul]
  split <;> rfl

theorem infinity_mul (hx : x.HasValue a) (ha : 0 < a) :
    (infinity false).mul x = .infinity false := by
  have hmagnitude := hx.magnitude_pos ha
  obtain ⟨_, _, _, rfl, -⟩ := hx
  exact if_neg hmagnitude.ne'

end HasValue

namespace IsRoundingOf

/-- A number of moderate size is rounded to a number, and not to infinity. -/
theorem exists_hasValue (h : IsRoundingOf x v) {e : ℤ} (hle : v ≤ 2 ^ e) (hleast : -1074 ≤ e)
    (hlt : e < 1024) : ∃ a, RoundsTo v a ∧ x.HasValue a := by
  obtain ⟨a, hround, hvalue | ⟨hhuge, -⟩⟩ := h
  · exact ⟨a, hround, hvalue⟩
  · have hbound := hhuge.trans (hround.ge_of_ge (fits_zpow hleast) hle)
    rw [zpow_le_zpow_iff_right₀ one_lt_two] at hbound
    exact absurd hbound (not_le.mpr hlt)

/-- A number that is a value is kept. -/
theorem hasValue_of_fits (h : IsRoundingOf x v) (hv : Fits v) :
    x.HasValue v ∨ 2 ^ (1024 : ℤ) ≤ v ∧ x = .infinity false := by
  obtain ⟨a, hround, hcases⟩ := h
  rwa [hround.eq_of_fits hv] at hcases

end IsRoundingOf

/-- A natural number of at most 53 places is kept. -/
theorem hasValue_ofNat {n : ℕ} (hn : n ≤ 2 ^ 53) : (ofNat n).HasValue n := by
  have hle : (n : ℚ) ≤ 2 ^ (53 : ℤ) := by exact_mod_cast hn
  obtain ⟨a, hround, hvalue⟩ := (isRoundingOf_ofNat n).exists_hasValue hle (by norm_num)
    (by norm_num)
  rwa [hround.eq_of_fits (fits_natCast hn)] at hvalue

/-! ## Powers -/

/-- A value is infinity, or a number that is at least one. -/
def IsAtLeastOne (x : Binary64) : Prop :=
  x = .infinity false ∨ ∃ a, 1 ≤ a ∧ x.HasValue a

/-- A value is a power of two, or infinity where that is beyond the largest value. -/
def IsPowerOfTwo (x : Binary64) (k : ℕ) : Prop :=
  k < 1024 ∧ x.HasValue (2 ^ k) ∨ 1024 ≤ k ∧ x = .infinity false

theorem IsAtLeastOne.mul (hx : x.IsAtLeastOne) (hy : y.IsAtLeastOne) :
    (x.mul y).IsAtLeastOne := by
  rcases hx with rfl | ⟨a, ha, hx⟩ <;> rcases hy with rfl | ⟨b, hb, hy⟩
  · exact Or.inl rfl
  · exact Or.inl (hy.infinity_mul (zero_lt_one.trans_le hb))
  · exact Or.inl (hx.mul_infinity (zero_lt_one.trans_le ha))
  · obtain ⟨c, hround, hvalue | ⟨-, hinfinite⟩⟩ := hx.mul hy
    · exact Or.inr ⟨c, hround.le_of_le fits_one (one_le_mul_of_one_le_of_one_le ha hb), hvalue⟩
    · exact Or.inl hinfinite

theorem IsPowerOfTwo.mul {j k : ℕ} (hx : x.IsPowerOfTwo j) (hy : y.IsPowerOfTwo k) :
    (x.mul y).IsPowerOfTwo (j + k) := by
  rcases hx with ⟨hj, hx⟩ | ⟨hj, rfl⟩ <;> rcases hy with ⟨hk, hy⟩ | ⟨hk, rfl⟩
  · have hproduct := (hx.mul hy).hasValue_of_fits (hx.fits.mul_pow k)
    rw [← pow_add] at hproduct
    rcases hproduct with hvalue | ⟨hhuge, hinfinite⟩
    · have hlt := hvalue.lt_zpow
      rw [← zpow_natCast, zpow_lt_zpow_iff_right₀ one_lt_two] at hlt
      exact Or.inl ⟨by omega, hvalue⟩
    · rw [← zpow_natCast, zpow_le_zpow_iff_right₀ one_lt_two] at hhuge
      exact Or.inr ⟨by omega, hinfinite⟩
  · exact Or.inr ⟨by omega, hx.mul_infinity (by positivity)⟩
  · exact Or.inr ⟨by omega, hy.infinity_mul (by positivity)⟩
  · exact Or.inr ⟨by omega, rfl⟩

/-- What products keep, with exponents added, the multiplications of a power keep. -/
theorem powLoop_induction {p : Binary64 → ℕ → Prop}
    (hmul : ∀ {x y : Binary64} {j k : ℕ}, p x j → p y k → p (x.mul y) (j + k))
    {product x : Binary64} {j k : ℕ} (hproduct : p product j) (hx : p x k) (n : ℕ) :
    p (powLoop product x n) (j + k * n) := by
  have hbit (product x : Binary64) (n : ℕ) {j k : ℕ} (hproduct : p product j) (hx : p x k) :
      p (if n % 2 = 1 then product.mul x else product) (j + k * (n % 2)) := by
    split
    · rename_i hodd
      rw [hodd, Nat.mul_one]
      exact hmul hproduct hx
    · rename_i heven
      rw [Nat.mod_two_ne_one.mp heven, Nat.mul_zero]
      exact hproduct
  induction product, x, n using powLoop.induct generalizing j k with
  | case1 product x n hlast =>
      have hn : n % 2 = n := by omega
      have hkept := hbit product x n hproduct hx
      rw [hn] at hkept
      rw [powLoop, if_pos hlast, hn]
      exact hkept
  | case2 product x n product' hmore =>
      rename_i ih
      have hsum : j + k * (n % 2) + (k + k) * (n / 2) = j + k * n := by
        rw [← Nat.two_mul, Nat.mul_assoc, Nat.mul_left_comm, Nat.add_assoc, ← Nat.mul_add,
          Nat.mod_add_div]
      rw [powLoop, if_neg hmore, ← hsum]
      exact ih (hbit product x n hproduct hx) (hmul hx hx)

theorem hasValue_one : (1 : Binary64).HasValue 1 := by
  have hvalue := hasValue_ofNat (n := 1) Nat.one_le_two_pow
  rwa [Nat.cast_one] at hvalue

theorem IsPowerOfTwo.pow {k : ℕ} (hx : x.IsPowerOfTwo k) (n : ℕ) :
    (x.pow n).IsPowerOfTwo (k * n) := by
  have hone : (1 : Binary64).IsPowerOfTwo 0 := by
    refine Or.inl ⟨by norm_num, ?_⟩
    rw [pow_zero]
    exact hasValue_one
  have hpow := powLoop_induction IsPowerOfTwo.mul hone hx n
  rwa [Nat.zero_add] at hpow

theorem IsAtLeastOne.pow (hx : x.IsAtLeastOne) (n : ℕ) : (x.pow n).IsAtLeastOne :=
  powLoop_induction (p := fun x _ => x.IsAtLeastOne) (j := 0) (k := 0) IsAtLeastOne.mul
    (Or.inr ⟨1, le_rfl, hasValue_one⟩) hx n

theorem isAtLeastOne_of_one_le (h : (1 : Binary64).le x = true) : x.IsAtLeastOne := by
  have hpos : (0 : ℤ) < (1 : Binary64).units := by
    rw [hasValue_one.units_eq]
    exact_mod_cast hasValue_one.magnitude_pos one_pos
  obtain ⟨_, _, _, hone, -⟩ := id hasValue_one
  cases x with
  | nan => simp [le, isNaN] at h
  | infinity negative =>
      cases negative with
      | false => exact Or.inl rfl
      | true =>
          rw [hone] at h
          cases h
  | finite negative significand exponent canonical =>
      cases negative with
      | false =>
          have hx : (finite false significand exponent canonical).HasValue
              (significand * 2 ^ exponent) := ⟨_, _, canonical, rfl, rfl⟩
          exact Or.inr ⟨_, (hasValue_one.le_iff hx).mp h, hx⟩
      | true =>
          rw [hone] at h hpos
          simp only [le, isNaN, lt, Bool.not_false, Bool.true_and, Bool.not_eq_true',
            decide_eq_false_iff_not, not_lt] at h
          simp only [units, isNegative, Bool.false_eq_true, if_true, if_false] at h hpos
          omega

/-- The greater one of one and any value, a NaN included, is at least one. -/
theorem isAtLeastOne_max_one (x : Binary64) : (x.max 1).IsAtLeastOne :=
  isAtLeastOne_of_one_le (le_max (by decide) x)

end Binary64
end LivePage
