import LivePage.LiveReload.Policy
import LivePage.Proofs.Binary64.Seconds

/-!
# Delays that grow

A grown delay is computed in rounded seconds, and cut off where these reach the seconds of
the greatest delay.  No rounding carries it above the greatest delay, whatever the factor.
Delays that double are exact up to a million seconds, but a delay of zero jumps to the
greatest one when the power of two is infinite.
-/

namespace LivePage
namespace LiveReload
namespace ReconnectPolicy

open Binary64 Duration

variable {initial greatest : Duration} {factor : Binary64} {attempt : UInt32}

/-! ## One delay -/

/-- Grown seconds are no number, or a number that is at least the initial one. -/
theorem backoffSeconds_cases {a : ℚ} (hinitial : initial.toSeconds.HasValue a)
    (factor : Binary64) (attempt : UInt32) :
    (backoffSeconds initial factor attempt).isFinite = false ∨
      ∃ s, a ≤ s ∧ (backoffSeconds initial factor attempt).HasValue s := by
  rcases (isAtLeastOne_max_one factor).pow (growth attempt) with hpow | ⟨b, hb, hpow⟩
  · left
    rw [backoffSeconds, hpow]
    exact hinitial.isFinite_mul_infinity
  · obtain ⟨s, hround, hvalue | ⟨-, hinfinite⟩⟩ := hinitial.mul hpow
    · have hgrown := le_mul_of_one_le_right hinitial.nonneg hb
      exact Or.inr ⟨s, hround.le_of_le hinitial.fits hgrown, hvalue⟩
    · left
      rw [backoffSeconds, hinfinite]
      rfl

/-- Grown seconds give way to the greatest delay. -/
def IsCutOff (greatest : Duration) (seconds : Binary64) : Prop :=
  seconds.isFinite = false ∨ greatest.toSeconds.le seconds = true

theorem isCutOff_iff {seconds : Binary64} {s most : ℚ}
    (hmost : greatest.toSeconds.HasValue most) (hvalue : seconds.HasValue s) :
    IsCutOff greatest seconds ↔ most ≤ s := by
  rw [IsCutOff, hmost.le_iff hvalue, hvalue.isFinite]
  exact or_iff_right Bool.noConfusion

theorem backoffDelay_of_isCutOff
    (h : IsCutOff greatest (backoffSeconds initial factor attempt)) :
    backoffDelay initial greatest factor attempt = greatest := by
  rw [backoffDelay, if_pos]
  simpa [IsCutOff] using h

/-- A delay that is not cut off is the one nearest to its seconds. -/
theorem backoffDelay_of_not_isCutOff {s : ℚ}
    (hvalue : (backoffSeconds initial factor attempt).HasValue s)
    (h : ¬IsCutOff greatest (backoffSeconds initial factor attempt)) :
    Duration.ofSeconds? (backoffSeconds initial factor attempt) =
        some (backoffDelay initial greatest factor attempt) ∧
      IsNearestEven (s * 1000000000)
        (backoffDelay initial greatest factor attempt).nanoseconds ∧
      (backoffDelay initial greatest factor attempt).nanoseconds ≤ greatest.nanoseconds := by
  obtain ⟨whole, part, most, hmost⟩ := greatest.exists_roundedSeconds
  obtain ⟨n, hnear, hread⟩ := exists_ofSeconds?_eq hvalue
  have hbelow : s < most := not_le.mp (mt (isCutOff_iff hmost.hasValue hvalue).mpr h)
  have hle : n ≤ greatest.nanoseconds := hnear.le_of_lt (hmost.lt_of_lt hvalue.fits hbelow)
  have hshort : n < UInt64.size * 1000000000 := hle.trans_lt greatest.nanoseconds_lt
  have hsome : Duration.ofSeconds? (backoffSeconds initial factor attempt) =
      some ⟨n, hshort⟩ := by
    rw [hread, ofNanoseconds?, dif_pos hshort]
  have hdelay : backoffDelay initial greatest factor attempt = ⟨n, hshort⟩ := by
    rw [backoffDelay, if_neg (by simpa [IsCutOff] using h), hsome, Option.getD_some]
  rw [hdelay]
  exact ⟨hsome, hnear, hle⟩

/-- A delay is the greatest one or made from grown seconds, within its bounds. -/
structure IsBackoff (initial greatest : Duration) (seconds : Binary64) (delay : Duration) :
    Prop where
  /-- Seconds that are not cut off are not negative, no NaN and not too many. -/
  converted : ¬IsCutOff greatest seconds → Duration.ofSeconds? seconds = some delay
  le_greatest : delay.nanoseconds ≤ greatest.nanoseconds
  eq_or_least_le : delay = greatest ∨
    ∃ least, Duration.ofSeconds? initial.toSeconds = some least ∧
      least.nanoseconds ≤ delay.nanoseconds

/-- Every delay is within its bounds, for any factor and at any attempt. -/
theorem isBackoff_backoffDelay (initial greatest : Duration) (factor : Binary64)
    (attempt : UInt32) :
    IsBackoff initial greatest (backoffSeconds initial factor attempt)
      (backoffDelay initial greatest factor attempt) := by
  by_cases hcut : IsCutOff greatest (backoffSeconds initial factor attempt)
  · rw [backoffDelay_of_isCutOff hcut]
    exact ⟨absurd hcut, le_rfl, Or.inl rfl⟩
  · obtain ⟨whole, part, a, hinitial⟩ := initial.exists_roundedSeconds
    rcases backoffSeconds_cases hinitial.hasValue factor attempt with hinfinite | ⟨s, has, hvalue⟩
    · exact absurd (Or.inl hinfinite) hcut
    · obtain ⟨hsome, hnear, hle⟩ := backoffDelay_of_not_isCutOff hvalue hcut
      obtain ⟨m, hleast, hread⟩ := exists_ofSeconds?_eq hinitial.hasValue
      have hmono : m ≤ (backoffDelay initial greatest factor attempt).nanoseconds :=
        hleast.mono hnear (by linarith)
      have hshort : m < UInt64.size * 1000000000 :=
        (hmono.trans hle).trans_lt greatest.nanoseconds_lt
      refine ⟨fun _ => hsome, hle, Or.inr ⟨⟨m, hshort⟩, ?_, hmono⟩⟩
      rw [hread, ofNanoseconds?, dif_pos hshort]

/-! ## Delays that double -/

section Close

variable {t g : ℕ} {grown most : ℚ}

/-- Close enough to whole nanoseconds, rounded numbers compare as these do. -/
theorem le_of_close (ht : |grown - t| ≤ t / 2 ^ 51) (hg : |most - g| ≤ g / 2 ^ 51)
    (hshort : g ≤ 10 ^ 15) (hle : most ≤ grown) : g ≤ t := by
  by_contra hlt
  have hstep : (t : ℚ) + 1 ≤ g := by exact_mod_cast not_le.mp hlt
  have hshortQ : (g : ℚ) ≤ 10 ^ 15 := by exact_mod_cast hshort
  have hhigh := (abs_le.mp ht).2
  have hlow := (abs_le.mp hg).1
  linarith

/-- Below the greatest delay, the nearest nanoseconds are the exact ones. -/
theorem eq_of_close (ht : |grown - t| ≤ t / 2 ^ 51) (hg : |most - g| ≤ g / 2 ^ 51)
    (hshort : g ≤ 10 ^ 15) (hlt : grown < most) {n : ℕ} (hn : IsNearestEven grown n) :
    n = t ∧ t ≤ g := by
  have hshortQ : (g : ℚ) ≤ 10 ^ 15 := by exact_mod_cast hshort
  have hhigh := (abs_le.mp hg).2
  have hlow := (abs_le.mp ht).1
  have hle : t ≤ g := by
    by_contra hmore
    have hstep : (g : ℚ) + 1 ≤ t := by exact_mod_cast not_le.mp hmore
    linarith
  have hleQ : (t : ℚ) ≤ g := by exact_mod_cast hle
  refine ⟨hn.unique (IsNearestEven.of_abs_lt ?_), hle⟩
  rw [abs_sub_comm]
  linarith

end Close

theorem isPowerOfTwo_two : ((2 : Binary64).max 1).IsPowerOfTwo 1 := by
  have htwo : (2 : Binary64).HasValue (2 : ℕ) := hasValue_ofNat (by norm_num)
  rw [htwo.max_of_lt hasValue_one (by norm_num)]
  exact Or.inl ⟨by norm_num, by exact_mod_cast htwo⟩

/-- A doubled delay is as close to the exact one as the initial one was. -/
theorem close_mul_pow {a : ℚ} {i : ℕ} (h : |a * 1000000000 - i| ≤ i / 2 ^ 51) (k : ℕ) :
    |a * 2 ^ k * 1000000000 - (i * 2 ^ k : ℕ)| ≤ (i * 2 ^ k : ℕ) / 2 ^ 51 := by
  have hpow : (0 : ℚ) < 2 ^ k := by positivity
  rw [Nat.cast_mul, Nat.cast_pow, Nat.cast_ofNat, mul_right_comm, ← sub_mul, abs_mul,
    abs_of_pos hpow, mul_div_right_comm]
  exact mul_le_mul_of_nonneg_right h hpow.le

/-- While the power of two is finite, the doubled seconds are exact or beyond the largest
value. -/
theorem backoffSeconds_two {a : ℚ} (hinitial : initial.toSeconds.HasValue a)
    (hgrowth : growth attempt < 1024) :
    (backoffSeconds initial 2 attempt).HasValue (a * 2 ^ growth attempt) ∨
      2 ^ (1024 : ℤ) ≤ a * 2 ^ growth attempt ∧
        (backoffSeconds initial 2 attempt).isFinite = false := by
  have hpow := isPowerOfTwo_two.pow (growth attempt)
  rw [Nat.one_mul] at hpow
  obtain ⟨-, hvalue⟩ := hpow.resolve_right fun h => absurd h.1 (not_le.mpr hgrowth)
  refine ((hinitial.mul hvalue).hasValue_of_fits (hinitial.fits.mul_pow _)).imp id ?_
  rintro ⟨hhuge, hproduct⟩
  exact ⟨hhuge, by rw [backoffSeconds, hproduct]; rfl⟩

/-- An infinite power of two leaves no finite seconds: there are infinitely many, or a NaN
where there were none. -/
theorem isFinite_backoffSeconds_two (initial : Duration) (hgrowth : 1024 ≤ growth attempt) :
    (backoffSeconds initial 2 attempt).isFinite = false := by
  obtain ⟨_, _, a, hinitial⟩ := initial.exists_roundedSeconds
  have hpow := isPowerOfTwo_two.pow (growth attempt)
  rw [Nat.one_mul] at hpow
  obtain ⟨-, hinfinite⟩ := hpow.resolve_left fun h => absurd h.1 (not_lt.mpr hgrowth)
  rw [backoffSeconds, hinfinite]
  exact hinitial.hasValue.isFinite_mul_infinity

/-- While the power of two is finite, a delay that doubles is exact up to a million
seconds. -/
theorem backoffDelay_two_of_growth_lt (hle : initial.nanoseconds ≤ greatest.nanoseconds)
    (hshort : greatest.nanoseconds ≤ 10 ^ 15) (hgrowth : growth attempt < 1024) :
    (backoffDelay initial greatest 2 attempt).nanoseconds =
      min (initial.nanoseconds * 2 ^ growth attempt) greatest.nanoseconds := by
  have hwhole {d : Duration} (hd : d.nanoseconds ≤ 10 ^ 15) : d.wholeSeconds ≤ 2 ^ 53 := by
    rw [wholeSeconds]
    omega
  obtain ⟨_, _, a, hinitial⟩ := initial.exists_roundedSeconds
  obtain ⟨_, _, most, hmost⟩ := greatest.exists_roundedSeconds
  have hcloseMost := hmost.relative (hwhole hshort)
  have hclose := close_mul_pow (hinitial.relative (hwhole (hle.trans hshort))) (growth attempt)
  have hseconds := backoffSeconds_two hinitial.hasValue hgrowth
  by_cases hcut : IsCutOff greatest (backoffSeconds initial 2 attempt)
  · have hreached : most ≤ a * 2 ^ growth attempt := by
      rcases hseconds with hvalue | ⟨hhuge, -⟩
      · exact (isCutOff_iff hmost.hasValue hvalue).mp hcut
      · exact (hmost.hasValue.lt_zpow.trans_le hhuge).le
    rw [backoffDelay_of_isCutOff hcut, min_eq_right]
    exact le_of_close hclose hcloseMost hshort (by linarith)
  · have hvalue := hseconds.resolve_right fun h => hcut (Or.inl h.2)
    have hbelow := not_le.mp (mt (isCutOff_iff hmost.hasValue hvalue).mpr hcut)
    obtain ⟨-, hnear, -⟩ := backoffDelay_of_not_isCutOff hvalue hcut
    obtain ⟨heq, hreach⟩ := eq_of_close hclose hcloseMost hshort (by linarith) hnear
    rw [heq, min_eq_left hreach]

/-- A delay that doubles is exact up to a million seconds.  Only one that starts at zero is
not, once the power of two is infinite. -/
theorem backoffDelay_two (hle : initial.nanoseconds ≤ greatest.nanoseconds)
    (hshort : greatest.nanoseconds ≤ 10 ^ 15) (attempt : UInt32) :
    (backoffDelay initial greatest 2 attempt).nanoseconds =
      if initial.nanoseconds = 0 ∧ 1024 < attempt.toNat then greatest.nanoseconds
      else min (initial.nanoseconds * 2 ^ (attempt.toNat - 1)) greatest.nanoseconds := by
  rcases lt_or_ge (growth attempt) 1024 with hgrowth | hgrowth
  · have hdelay := backoffDelay_two_of_growth_lt hle hshort hgrowth
    have hexponent : growth attempt = attempt.toNat - 1 ∧ ¬1024 < attempt.toNat := by
      rw [growth] at hgrowth ⊢
      omega
    rw [if_neg fun h => hexponent.2 h.2, ← hexponent.1]
    exact hdelay
  · have hexponent : 1024 < attempt.toNat := by
      rw [growth] at hgrowth
      omega
    rw [backoffDelay_of_isCutOff (Or.inl (isFinite_backoffSeconds_two initial hgrowth))]
    split
    · rfl
    · rename_i hstarts
      have hpos : 0 < initial.nanoseconds := by omega
      rw [min_eq_right]
      calc
        greatest.nanoseconds ≤ 2 ^ 50 := hshort.trans (by norm_num)
        _ ≤ 2 ^ (attempt.toNat - 1) := Nat.pow_le_pow_right Nat.two_pos (by omega)
        _ ≤ initial.nanoseconds * 2 ^ (attempt.toNat - 1) := Nat.le_mul_of_pos_left _ hpos

/-- Every reconnection that is allowed comes after the initial delay doubled once for each
one before it, or after the greatest delay. -/
theorem delay?_of_doubling {maxAttempts : Option UInt32}
    (hle : initial.nanoseconds ≤ greatest.nanoseconds)
    (hshort : greatest.nanoseconds ≤ 10 ^ 15) (hallowed : allows maxAttempts attempt = true)
    (serverRetry : Option Duration) :
    ∃ delay, (backoff initial greatest 2 maxAttempts).delay? attempt serverRetry = some delay ∧
      delay.nanoseconds =
        if initial.nanoseconds = 0 ∧ 1024 < attempt.toNat then greatest.nanoseconds
        else min (initial.nanoseconds * 2 ^ (attempt.toNat - 1)) greatest.nanoseconds :=
  ⟨_, if_pos hallowed, backoffDelay_two hle hshort attempt⟩

theorem delay?_of_doubling_fourth :
    (ofMillis 500).nanoseconds ≤ (ofMillis 30000).nanoseconds ∧
      (ofMillis 30000).nanoseconds ≤ 10 ^ 15 ∧ allows (some 10) 4 = true ∧
      ∃ delay, (backoff (ofMillis 500) (ofMillis 30000) 2 (some 10)).delay? 4 none = some delay ∧
        delay.nanoseconds = 4000000000 :=
  ⟨by decide, by decide, by decide,
    @delay?_of_doubling _ _ 4 _ (by decide) (by decide) (by decide) none⟩

/-- A delay of zero stays zero for a thousand reconnections, and then turns into the
greatest one. -/
theorem not_doubling_from_zero :
    ¬∀ (initial greatest : Duration) (maxAttempts : Option UInt32) (attempt : UInt32)
      (serverRetry : Option Duration), initial.nanoseconds ≤ greatest.nanoseconds →
        greatest.nanoseconds ≤ 10 ^ 15 → 1 ≤ attempt.toNat →
          allows maxAttempts attempt = true →
            ∃ delay,
              (backoff initial greatest 2 maxAttempts).delay? attempt serverRetry =
                  some delay ∧
                delay.nanoseconds =
                  min (initial.nanoseconds * 2 ^ (attempt.toNat - 1)) greatest.nanoseconds := by
  intro h
  obtain ⟨delay, hdelay, hzero⟩ := h (ofMillis 0) (ofMillis 9000) none 1025 none (by decide)
    (by decide) (by decide) rfl
  have hjump : (backoffDelay (ofMillis 0) (ofMillis 9000) 2 1025).nanoseconds = 9000000000 :=
    backoffDelay_two (by decide) (by decide) 1025
  obtain rfl : backoffDelay (ofMillis 0) (ofMillis 9000) 2 1025 = delay :=
    Option.some.inj hdelay
  rw [hjump, show (ofMillis 0).nanoseconds = 0 from rfl, Nat.zero_mul, Nat.zero_min] at hzero
  cases hzero

end ReconnectPolicy
end LiveReload
end LivePage
