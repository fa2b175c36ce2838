import LivePage.Binary64.Seconds
import LivePage.Proofs.Binary64.Arithmetic

/-!
# Durations and their seconds

The seconds of a duration are rounded three times: its whole seconds, its part of a second
and their sum.  Even so no value below them is more than half a nanosecond above the
duration, and if the whole seconds have no more than 53 places, the seconds are the
duration but for one part in `2 ^ 51`.
-/

namespace LivePage

open Binary64

/-! ## Back to nanoseconds -/

/-- A number of seconds is read as the nearest nanoseconds. -/
theorem Duration.exists_ofSeconds?_eq {x : Binary64} {a : ℚ} (hx : x.HasValue a) :
    ∃ n, IsNearestEven (a * 1000000000) n ∧
      Duration.ofSeconds? x = Duration.ofNanoseconds? n := by
  obtain ⟨significand, exponent, hcanonical, rfl, rfl⟩ := hx
  refine ⟨_, ?_, by rw [Duration.ofSeconds?, if_neg (by simp)]⟩
  have hexact : (significand : ℚ) * 2 ^ exponent * 1000000000 =
      (significand * Nat.pow 2 exponent.toNat * 1000000000 : ℕ) /
        (Nat.pow 2 (-exponent).toNat : ℕ) := by
    have hpow := zpow_eq_div Nat.two_pos exponent
    rw [Nat.cast_ofNat] at hpow
    rw [hpow, Nat.cast_mul, Nat.cast_mul, Nat.cast_ofNat, mul_div_assoc', div_mul_eq_mul_div]
  rw [hexact]
  exact isNearestEven_roundHalfEven _ (Nat.pow_pos Nat.two_pos)

namespace Duration

/-- The seconds of a duration, in the steps in which they are rounded. -/
structure RoundedSeconds (d : Duration) (whole part seconds : ℚ) : Prop where
  whole_rounded : RoundsTo d.wholeSeconds whole
  part_rounded : RoundsTo (d.subsecond / 1000000000) part
  sum_rounded : RoundsTo (whole + part) seconds
  hasValue : d.toSeconds.HasValue seconds

theorem nanoseconds_eq (d : Duration) :
    (d.nanoseconds : ℚ) = d.wholeSeconds * 1000000000 + d.subsecond := by
  exact_mod_cast (Nat.div_add_mod' d.nanoseconds 1000000000).symm

theorem wholeSeconds_lt (d : Duration) : d.wholeSeconds < 2 ^ 64 :=
  Nat.div_lt_of_lt_mul (by have := d.nanoseconds_lt; rwa [Nat.mul_comm] at this)

theorem subsecond_lt (d : Duration) : d.subsecond < 1000000000 :=
  Nat.mod_lt _ (by norm_num)

theorem exists_roundedSeconds (d : Duration) :
    ∃ whole part seconds, d.RoundedSeconds whole part seconds := by
  have hwhole : (d.wholeSeconds : ℚ) ≤ 2 ^ (64 : ℤ) := by exact_mod_cast d.wholeSeconds_lt.le
  have hpart : (d.subsecond : ℚ) / (1000000000 : ℕ) ≤ 2 ^ (0 : ℤ) := by
    have hlt : (d.subsecond : ℚ) < (1000000000 : ℕ) := by exact_mod_cast d.subsecond_lt
    rw [zpow_zero]
    exact (div_le_one (by norm_num)).mpr hlt.le
  have hsubsecond : (ofNat d.subsecond).HasValue d.subsecond :=
    hasValue_ofNat (by have := d.subsecond_lt; omega)
  obtain ⟨whole, hwholeRounded, hwholeValue⟩ :=
    (isRoundingOf_ofNat d.wholeSeconds).exists_hasValue hwhole (by norm_num) (by norm_num)
  obtain ⟨part, hpartRounded, hpartValue⟩ :=
    (hsubsecond.divNat (n := 1000000000) (by norm_num)).exists_hasValue hpart (by norm_num)
      (by norm_num)
  have hsum : whole + part ≤ 2 ^ (65 : ℤ) := by
    have hwholeLe := hwholeRounded.ge_of_ge (fits_zpow (by norm_num)) hwhole
    have hpartLe := hpartRounded.ge_of_ge (fits_zpow (by norm_num)) hpart
    norm_num at hwholeLe hpartLe ⊢
    linarith
  obtain ⟨seconds, hsumRounded, hvalue⟩ :=
    (hwholeValue.add hpartValue).exists_hasValue hsum (by norm_num) (by norm_num)
  rw [Nat.cast_ofNat] at hpartRounded
  exact ⟨whole, part, seconds, hwholeRounded, hpartRounded, hsumRounded, hvalue⟩

namespace RoundedSeconds

variable {d : Duration} {whole part seconds σ : ℚ}

theorem whole_eq (h : d.RoundedSeconds whole part seconds) (hd : d.wholeSeconds ≤ 2 ^ 53) :
    whole = d.wholeSeconds :=
  h.whole_rounded.eq_of_fits (fits_natCast hd)

theorem part_nonneg (h : d.RoundedSeconds whole part seconds) : 0 ≤ part :=
  h.part_rounded.le_of_le fits_zero (by positivity)

theorem part_lt_one (h : d.RoundedSeconds whole part seconds) : part < 1 := by
  have hfits : Fits ((2 ^ 53 - 1 : ℕ) * 2 ^ (-53 : ℤ)) :=
    ⟨_, _, Nat.sub_le _ _, by norm_num, rfl⟩
  have hsubsecond : (d.subsecond : ℚ) ≤ 999999999 := by
    exact_mod_cast Nat.le_of_lt_succ d.subsecond_lt
  refine (h.part_rounded.ge_of_ge hfits ?_).trans_lt (by norm_num)
  rw [div_le_iff₀ (by norm_num)]
  norm_num
  linarith

/-- A part of a second is none at all or not tiny. -/
theorem subsecond_div_cases (d : Duration) :
    (d.subsecond : ℚ) / 1000000000 = 0 ∨
      2 ^ (-30 : ℤ) ≤ (d.subsecond : ℚ) / 1000000000 := by
  rcases Nat.eq_zero_or_pos d.subsecond with hzero | hpos
  · exact Or.inl (by rw [hzero, Nat.cast_zero, zero_div])
  · have hone : (1 : ℚ) ≤ d.subsecond := by exact_mod_cast hpos
    refine Or.inr ?_
    rw [le_div_iff₀ (by norm_num)]
    norm_num
    linarith

theorem part_cases (h : d.RoundedSeconds whole part seconds) :
    part = 0 ∨ 2 ^ (-30 : ℤ) ≤ part := by
  refine (subsecond_div_cases d).imp (fun hzero => ?_) fun hlow => ?_
  · have hpart := h.part_rounded
    rw [hzero] at hpart
    exact hpart.eq_of_fits fits_zero
  · exact h.part_rounded.le_of_le (fits_zpow (by norm_num)) hlow

theorem part_relative (h : d.RoundedSeconds whole part seconds) :
    |part * 1000000000 - d.subsecond| ≤ d.subsecond / 2 ^ 53 := by
  have hnear := h.part_rounded.relative (by norm_num) (subsecond_div_cases d)
  have hexact : (d.subsecond : ℚ) = d.subsecond / 1000000000 * 1000000000 :=
    (div_mul_cancel₀ _ (by norm_num)).symm
  rw [abs_le] at hnear ⊢
  constructor <;> linarith

/-- A value below the seconds of a duration is at most half a nanosecond above it. -/
theorem lt_of_lt (h : d.RoundedSeconds whole part seconds) (hσ : Fits σ) (hlt : σ < seconds) :
    σ * 1000000000 < d.nanoseconds + 1 / 2 := by
  rw [nanoseconds_eq]
  rcases le_or_gt d.wholeSeconds (2 ^ 53) with hd | hd
  · have hsum : σ < whole + part := h.sum_rounded.lt_of_lt hσ hlt
    have hpart := (abs_le.mp h.part_relative).2
    have hsubsecond : (d.subsecond : ℚ) < 1000000000 := by exact_mod_cast d.subsecond_lt
    rw [h.whole_eq hd] at hsum
    have hlost : (d.subsecond : ℚ) / 2 ^ 53 < 1 / 2 := by
      rw [div_lt_iff₀ (by norm_num)]
      linarith
    linarith
  · have hlarge : ((2 ^ 53 : ℕ) : ℚ) ≤ whole :=
      h.whole_rounded.le_of_le (fits_natCast le_rfl) (by exact_mod_cast hd.le)
    have hle : seconds ≤ whole :=
      h.sum_rounded.le_of_add_lt_one h.whole_rounded.fits hlarge h.part_nonneg h.part_lt_one
    have hwhole : σ < d.wholeSeconds := h.whole_rounded.lt_of_lt hσ (hlt.trans_le hle)
    have hsubsecond : (0 : ℚ) ≤ d.subsecond := Nat.cast_nonneg _
    linarith

/-- The seconds of a duration that is not huge are off by at most one part in `2 ^ 51`. -/
theorem relative (h : d.RoundedSeconds whole part seconds) (hd : d.wholeSeconds ≤ 2 ^ 53) :
    |seconds * 1000000000 - d.nanoseconds| ≤ d.nanoseconds / 2 ^ 51 := by
  have hsum : whole + part = 0 ∨ 2 ^ (-30 : ℤ) ≤ whole + part := by
    rw [h.whole_eq hd]
    rcases Nat.eq_zero_or_pos d.wholeSeconds with hzero | hpos
    · rw [hzero, Nat.cast_zero, zero_add]
      exact h.part_cases
    · have hone : (1 : ℚ) ≤ d.wholeSeconds := by exact_mod_cast hpos
      have htiny : (2 : ℚ) ^ (-30 : ℤ) ≤ 1 := zpow_le_one_of_nonpos₀ one_le_two (by norm_num)
      exact Or.inr (by linarith [h.part_nonneg])
  have hpart := abs_le.mp h.part_relative
  have hseconds := abs_le.mp (h.sum_rounded.relative (by norm_num) hsum)
  rw [h.whole_eq hd] at hseconds
  have hsubsecond : (0 : ℚ) ≤ d.subsecond := Nat.cast_nonneg _
  have hwhole : (0 : ℚ) ≤ d.wholeSeconds := Nat.cast_nonneg _
  rw [nanoseconds_eq, abs_le]
  constructor <;> linarith

end RoundedSeconds
end Duration
end LivePage
