import LivePage.Binary64.Decimal
import LivePage.Proofs.Binary64.Rounding
import LivePage.Proofs.Text.Trimming
import Mathlib.Data.List.TakeWhile
import Mathlib.Tactic.NormNum

/-!
# Decimal text of binary64 numbers reads back

A value is written with as few digits as read back as the value, or else exactly, and
then positional notation is read as the decimal that was written.
-/

namespace LivePage

/-! ## Digits -/

namespace Digits

theorem value_append (cs ds : List Char) :
    value (cs ++ ds) = value cs * 10 ^ ds.length + value ds := by
  simp only [value_eq_ofDigitChars]
  rw [Nat.ofDigitChars_append, Nat.ofDigitChars_eq_ofDigitChars_zero, Nat.mul_comm]

theorem value_replicate_zero (n : ℕ) : value (List.replicate n '0') = 0 := by
  rw [value_eq_ofDigitChars, Nat.ofDigitChars_replicate_zero, Nat.mul_zero]

end Digits

namespace Decimal

theorem value_digitsOf (n : ℕ) : Digits.value (digitsOf n) = n := by
  rw [Digits.value_eq_ofDigitChars, digitsOf, Nat.ofDigitChars_ten_toDigits]

theorem isDigit_of_mem_digitsOf {n : ℕ} {c : Char} (hc : c ∈ digitsOf n) :
    c.isDigit = true :=
  Nat.isDigit_of_mem_toDigits (by decide) (by decide) hc

theorem digitsOf_ne_nil (n : ℕ) : digitsOf n ≠ [] :=
  Nat.toDigits_ne_nil

theorem length_digitsOf_le_iff {n k : ℕ} (hk : 0 < k) :
    (digitsOf n).length ≤ k ↔ n < 10 ^ k :=
  Nat.length_toDigits_le_iff (by decide) hk

theorem length_digitsOf_mul_pow {n : ℕ} (hn : 0 < n) (k : ℕ) :
    (digitsOf (n * 10 ^ k)).length = (digitsOf n).length + k := by
  induction k with
  | zero => rw [Nat.pow_zero, Nat.mul_one, Nat.add_zero]
  | succ k ih =>
      have hpos : 0 < n * 10 ^ k := Nat.mul_pos hn (Nat.pow_pos (by decide))
      have hshift : n * 10 ^ (k + 1) = 10 * (n * 10 ^ k) + 0 := by
        rw [Nat.pow_succ, ← Nat.mul_assoc, Nat.mul_comm, Nat.add_zero]
      rw [hshift, digitsOf, ← Nat.toDigits_append_toDigits (by decide) hpos (by decide),
        List.length_append, ← digitsOf, ih]
      rfl

/-! ## Positional notation -/

/-- The digits after the point, of which there are as many as there are places. -/
def fractionDigits (n places : ℕ) : List Char :=
  List.replicate (places - (digitsOf n).length) '0' ++ digitsOf n

theorem length_fractionDigits {n places : ℕ} (hplaces : 0 < places)
    (hn : n < 10 ^ places) : (fractionDigits n places).length = places := by
  have hle := (length_digitsOf_le_iff hplaces).mpr hn
  rw [fractionDigits, List.length_append, List.length_replicate]
  omega

theorem value_fractionDigits (n places : ℕ) :
    Digits.value (fractionDigits n places) = n := by
  rw [fractionDigits, Digits.value_append, Digits.value_replicate_zero, value_digitsOf,
    Nat.zero_mul, Nat.zero_add]

theorem isDigit_of_mem_fractionDigits {n places : ℕ} {c : Char}
    (hc : c ∈ fractionDigits n places) : c.isDigit = true := by
  rcases List.mem_append.mp hc with hc | hc
  · rw [List.eq_of_mem_replicate hc]
    rfl
  · exact isDigit_of_mem_digitsOf hc

theorem positional_of_nonneg {d : Decimal} (h : 0 ≤ d.exponent) :
    d.positional = digitsOf (d.digits * 10 ^ d.exponent.toNat) :=
  if_pos h

theorem positional_of_neg {d : Decimal} (h : d.exponent < 0) :
    d.positional =
      digitsOf (d.digits / 10 ^ (-d.exponent).toNat) ++
        '.' :: fractionDigits (d.digits % 10 ^ (-d.exponent).toNat) (-d.exponent).toNat :=
  if_neg (Int.not_le.mpr h)

/-- The characters of a number in positional notation, of which the first is a digit. -/
theorem positional_chars (d : Decimal) :
    (∃ c cs, d.positional = c :: cs ∧ c.isDigit = true) ∧
      ∀ c ∈ d.positional, c.isDigit = true ∨ c = '.' := by
  have hhead (n : ℕ) : ∃ c cs, digitsOf n = c :: cs ∧ c.isDigit = true := by
    obtain ⟨c, cs, hcs⟩ := List.exists_cons_of_ne_nil (digitsOf_ne_nil n)
    exact ⟨c, cs, hcs, isDigit_of_mem_digitsOf (hcs ▸ List.mem_cons_self)⟩
  rcases Int.lt_or_le d.exponent 0 with h | h
  · rw [positional_of_neg h]
    obtain ⟨c, cs, hcs, hc⟩ := hhead (d.digits / 10 ^ (-d.exponent).toNat)
    refine ⟨⟨c, _, by rw [hcs, List.cons_append], hc⟩, ?_⟩
    intro c hc
    rcases List.mem_append.mp hc with hc | hc
    · exact Or.inl (isDigit_of_mem_digitsOf hc)
    · rcases List.mem_cons.mp hc with rfl | hc
      · exact Or.inr rfl
      · exact Or.inl (isDigit_of_mem_fractionDigits hc)
  · rw [positional_of_nonneg h]
    exact ⟨hhead _, fun c hc => Or.inl (isDigit_of_mem_digitsOf hc)⟩

end Decimal

namespace Binary64

/-! ## Reading decimals -/

theorem readDecimal?_digitsOf (n : ℕ) :
    readDecimal? (Decimal.digitsOf n) = some ⟨n, 0⟩ := by
  have hdigits : ∀ c ∈ Decimal.digitsOf n, c.isDigit = true := fun _ =>
    Decimal.isDigit_of_mem_digitsOf
  have htake := List.takeWhile_eq_self_iff.mpr hdigits
  have hdrop := List.dropWhile_eq_nil_iff.mpr hdigits
  simp [readDecimal?, htake, hdrop, Decimal.digitsOf_ne_nil, readExponent?,
    Decimal.ofText, Decimal.value_digitsOf]

theorem readDecimal?_point (n : ℕ) {fraction : List Char}
    (hfraction : ∀ c ∈ fraction, c.isDigit = true) :
    readDecimal? (Decimal.digitsOf n ++ '.' :: fraction) =
      some ⟨n * 10 ^ fraction.length + Digits.value fraction, -fraction.length⟩ := by
  have hdigits : ∀ c ∈ Decimal.digitsOf n, c.isDigit = true := fun _ =>
    Decimal.isDigit_of_mem_digitsOf
  have htake := List.takeWhile_eq_self_iff.mpr hfraction
  have hdrop := List.dropWhile_eq_nil_iff.mpr hfraction
  have hpoint : Char.isDigit '.' = false := by decide
  simp [readDecimal?, List.takeWhile_append_of_pos hdigits,
    List.dropWhile_append_of_pos hdigits, hpoint, htake, hdrop,
    Decimal.digitsOf_ne_nil, readExponent?, Decimal.ofText, Digits.value_append,
    Decimal.value_digitsOf]

/-- Zeros may take the place of a power of ten. -/
theorem ofDecimal_of_nonneg (negative : Bool) {d : Decimal} (h : 0 ≤ d.exponent) :
    ofDecimal negative ⟨d.digits * 10 ^ d.exponent.toNat, 0⟩ = ofDecimal negative d := by
  have hpow : 0 < 10 ^ d.exponent.toNat := Nat.pow_pos (by decide)
  rcases Nat.eq_zero_or_pos d.digits with hzero | hpos
  · simp [ofDecimal, hzero]
  · have hlength : (((Decimal.digitsOf (d.digits * 10 ^ d.exponent.toNat)).length : ℤ) + 0) =
        (Decimal.digitsOf d.digits).length + d.exponent := by
      rw [Decimal.length_digitsOf_mul_pow hpos]
      omega
    have hratio : Decimal.ratio ⟨d.digits * 10 ^ d.exponent.toNat, 0⟩ = d.ratio := by
      have hbelow : (-d.exponent).toNat = 0 := by omega
      simp [Decimal.ratio, hbelow]
    simp only [ofDecimal, hlength, hratio, Nat.mul_eq_zero, hpow.ne', or_false]

theorem readDecimal?_positional (d : Decimal) :
    ∃ d', readDecimal? d.positional = some d' ∧
      ∀ negative, ofDecimal negative d' = ofDecimal negative d := by
  rcases Int.lt_or_le d.exponent 0 with h | h
  · generalize hplaces : (-d.exponent).toNat = places
    have hpos : 0 < places := by omega
    have hmod : d.digits % 10 ^ places < 10 ^ places :=
      Nat.mod_lt _ (Nat.pow_pos (by decide))
    have hlength := Decimal.length_fractionDigits hpos hmod
    refine ⟨d, ?_, fun _ => rfl⟩
    rw [Decimal.positional_of_neg h, hplaces,
      readDecimal?_point _ fun _ => Decimal.isDigit_of_mem_fractionDigits,
      Decimal.value_fractionDigits, hlength, Nat.div_add_mod']
    have hexponent : (-places : ℤ) = d.exponent := by omega
    rw [hexponent]
  · rw [Decimal.positional_of_nonneg h]
    exact ⟨_, readDecimal?_digitsOf _, fun negative => ofDecimal_of_nonneg negative h⟩

/-! ## Decimals that are values -/

end Binary64

namespace Decimal

/-- The number that a decimal stands for. -/
def toRat (d : Decimal) : ℚ :=
  d.digits * 10 ^ d.exponent

theorem ratio_eq (d : Decimal) : (d.ratio.1 : ℚ) / d.ratio.2 = d.toRat := by
  have hpow := zpow_eq_div (b := 10) (by decide) d.exponent
  rw [Nat.cast_ofNat] at hpow
  rw [toRat, hpow, ratio, Nat.cast_mul, mul_div_assoc]

theorem ratio_pos (d : Decimal) : 0 < d.ratio.2 :=
  Nat.pow_pos (by decide)

/-- The number of its digits tells between which powers of ten a decimal lies. -/
theorem toRat_bounds {d : Decimal} (hd : 0 < d.digits) :
    (10 : ℚ) ^ ((digitsOf d.digits).length + d.exponent - 1) ≤ d.toRat ∧
      d.toRat < 10 ^ ((digitsOf d.digits).length + d.exponent) := by
  generalize hlength : (digitsOf d.digits).length = length
  have hpos : 0 < length := by
    rw [← hlength]
    exact Nat.length_toDigits_pos
  have hhigh : d.digits < 10 ^ length := (length_digitsOf_le_iff hpos).mp hlength.le
  have hlow : 10 ^ (length - 1) ≤ d.digits := by
    rcases Nat.eq_zero_or_pos (length - 1) with hone | hmore
    · rw [hone]
      exact hd
    · have hnot := mt (length_digitsOf_le_iff (n := d.digits) hmore).mpr
      exact Nat.not_lt.mp (hnot (by omega))
  have hscale : (0 : ℚ) < 10 ^ d.exponent := by positivity
  constructor
  · have hsplit : (length : ℤ) + d.exponent - 1 = (length - 1 : ℕ) + d.exponent := by omega
    rw [hsplit, zpow_add₀ (by norm_num), zpow_natCast, toRat]
    exact mul_le_mul_of_nonneg_right (by exact_mod_cast hlow) hscale.le
  · rw [zpow_add₀ (by norm_num), zpow_natCast, toRat]
    exact mul_lt_mul_of_pos_right (by exact_mod_cast hhigh) hscale

end Decimal

namespace Binary64

section Values

variable {negative : Bool} {significand : ℕ} {exponent : ℤ}

/-- The magnitudes of values other than zero. -/
theorem value_bounds (h : Canonical significand exponent) (hpos : 0 < significand) :
    (2 : ℚ) ^ (-1074 : ℤ) ≤ significand * 2 ^ exponent ∧
      (significand : ℚ) * 2 ^ exponent < 2 ^ (1024 : ℤ) := by
  obtain ⟨hlt, hleast, hgreatest, -⟩ := h
  rw [Nat.pow_eq] at hlt
  have hone : (1 : ℚ) ≤ significand := by exact_mod_cast hpos
  constructor
  · calc
      (2 : ℚ) ^ (-1074 : ℤ) ≤ 2 ^ exponent := zpow_le_zpow_right₀ one_le_two hleast
      _ ≤ significand * 2 ^ exponent := le_mul_of_one_le_left (by positivity) hone
  · calc
      (significand : ℚ) * 2 ^ exponent < 2 ^ (53 : ℤ) * 2 ^ exponent := by
        exact mul_lt_mul_of_pos_right (by exact_mod_cast hlt) (by positivity)
      _ = 2 ^ (53 + exponent) := (zpow_add₀ two_ne_zero _ _).symm
      _ ≤ 2 ^ (1024 : ℤ) := zpow_le_zpow_right₀ one_le_two (by omega)

/-- A decimal that is a value is in range. -/
theorem leading_bounds (h : Canonical significand exponent) {d : Decimal}
    (hd : 0 < d.digits) (heq : d.toRat = significand * 2 ^ exponent) :
    -330 ≤ (Decimal.digitsOf d.digits).length + d.exponent ∧
      (Decimal.digitsOf d.digits).length + d.exponent ≤ 310 := by
  have hpos : 0 < significand := by
    apply Nat.pos_of_ne_zero
    rintro rfl
    have hne : d.toRat ≠ 0 := by
      rw [Decimal.toRat]
      positivity
    exact hne (by rw [heq, Nat.cast_zero, zero_mul])
  obtain ⟨hlow, hhigh⟩ := Decimal.toRat_bounds hd
  obtain ⟨hleast, hgreatest⟩ := value_bounds h hpos
  rw [heq] at hlow hhigh
  have hten : (1 : ℚ) < 10 := by norm_num
  have hbelow : (10 : ℚ) ^ (-330 : ℤ) < 2 ^ (-1074 : ℤ) := by
    have hnat : 2 ^ 1074 < 10 ^ 330 := by decide +kernel
    rw [zpow_neg, zpow_neg, inv_lt_inv₀ (by positivity) (by positivity)]
    exact_mod_cast hnat
  have habove : (2 : ℚ) ^ (1024 : ℤ) < 10 ^ (309 : ℤ) := by
    have hnat : 2 ^ 1024 < 10 ^ 309 := by decide +kernel
    exact_mod_cast hnat
  have hmin := (zpow_lt_zpow_iff_right₀ hten).mp (hbelow.trans_le hleast |>.trans hhigh)
  have hmax := (zpow_lt_zpow_iff_right₀ hten).mp (hlow.trans_lt hgreatest |>.trans habove)
  omega

/-- A decimal that is a value is read as that value. -/
theorem ofDecimal_of_toRat_eq (h : Canonical significand exponent) {d : Decimal}
    (heq : d.toRat = significand * 2 ^ exponent) :
    ofDecimal negative d = .finite negative significand exponent h := by
  rcases Nat.eq_zero_or_pos d.digits with hzero | hpos
  · rw [Decimal.toRat, hzero, Nat.cast_zero, zero_mul] at heq
    rw [ofDecimal, if_pos (Or.inl hzero)]
    exact ofRatio_of_eq h Nat.one_pos (by rw [Nat.cast_zero, zero_div, heq])
  · obtain ⟨hmin, hmax⟩ := leading_bounds h hpos heq
    have hin : ¬(d.digits = 0 ∨
        ((Decimal.digitsOf d.digits).length : ℤ) + d.exponent < -330) := by
      rintro (hzero | hlt)
      · exact hpos.ne' hzero
      · omega
    simp only [ofDecimal, if_neg hin, if_neg (Int.not_lt.mpr hmax)]
    exact ofRatio_of_eq h d.ratio_pos (d.ratio_eq.trans heq)

theorem toRat_exactDecimal (h : Canonical significand exponent) :
    (exactDecimal (.finite negative significand exponent h)).toRat =
      significand * 2 ^ exponent := by
  rw [exactDecimal]
  split
  · rename_i hnonneg
    have hpow : (2 : ℚ) ^ exponent.toNat = 2 ^ exponent := by
      rw [← zpow_natCast, Int.toNat_of_nonneg hnonneg]
    simp [Decimal.toRat, hpow]
  · rename_i hneg
    obtain ⟨k, rfl⟩ : ∃ k : ℕ, exponent = -k := ⟨(-exponent).toNat, by omega⟩
    have hten : (10 : ℚ) ^ (-k : ℤ) * 5 ^ k = 2 ^ (-k : ℤ) := by
      have hsplit : (10 : ℚ) = 2 * 5 := by norm_num
      rw [hsplit, mul_zpow, mul_assoc, zpow_neg (5 : ℚ), zpow_natCast (5 : ℚ),
        inv_mul_cancel₀ (by positivity), mul_one]
    simp only [Decimal.toRat, neg_neg, Int.toNat_natCast, Nat.pow_eq, Nat.cast_mul,
      Nat.cast_pow, Nat.cast_ofNat]
    rw [mul_assoc, mul_comm ((5 : ℚ) ^ k), hten]

end Values

/-! ## Text -/

theorem ofDecimal_of_decimalAt? {x : Binary64} {exponent : ℤ} {d : Decimal}
    (h : x.decimalAt? exponent = some d) : ofDecimal x.isNegative d = x := by
  simp only [decimalAt?] at h
  split at h
  · rename_i hlower hupper
    obtain rfl := Option.some_inj.mp h
    split
    · exact of_decide_eq_true hupper
    · exact of_decide_eq_true hlower
  · rename_i hlower hupper
    obtain rfl := Option.some_inj.mp h
    exact of_decide_eq_true hlower
  · rename_i hlower hupper
    obtain rfl := Option.some_inj.mp h
    exact of_decide_eq_true hupper
  · cases h

/-- The decimal that is written reads back. -/
theorem ofDecimal_shortest {x : Binary64} (hx : x.isFinite = true) :
    ofDecimal x.isNegative x.shortest = x := by
  cases x with
  | nan => cases hx
  | infinity negative => cases hx
  | finite negative significand exponent h =>
      rw [shortest]
      split
      · rename_i hzero
        have hpow : Nat.pow 2 (exponent + 1074).toNat ≠ 0 := (Nat.pow_pos Nat.two_pos).ne'
        have hsignificand : significand = 0 := (Nat.mul_eq_zero.mp hzero).resolve_right hpow
        apply ofDecimal_of_toRat_eq
        rw [Decimal.toRat, hsignificand, Nat.cast_zero, zero_mul, zero_mul]
      · cases hfound : (List.range 20).findSome? fun (i : ℕ) =>
            (finite negative significand exponent h).decimalAt?
              ((finite negative significand exponent h).leadingExponent - (i : ℤ)) with
        | some d =>
            obtain ⟨i, -, hd⟩ := List.exists_of_findSome?_eq_some hfound
            exact ofDecimal_of_decimalAt? hd
        | none => exact ofDecimal_of_toRat_eq h (@toRat_exactDecimal negative _ _ h)

theorem toLower_of_isDigit {c : Char} (hc : c.isDigit = true) : c.toLower = c := by
  have hupper : ¬(c.val ≥ 'A'.val ∧ c.val ≤ 'Z'.val) := by
    rintro ⟨hge, -⟩
    simp only [Char.isDigit, Bool.and_eq_true, decide_eq_true_eq] at hc
    exact absurd (UInt32.le_trans hge hc.2) (by decide)
  exact dif_neg hupper

theorem readMagnitude?_positional (negative : Bool) (d : Decimal) :
    readMagnitude? negative d.positional = some (ofDecimal negative d) := by
  obtain ⟨d', hread, hdecimal⟩ := readDecimal?_positional d
  obtain ⟨⟨c, cs, hcs, hc⟩, -⟩ := d.positional_chars
  have hne {word : List Char} (hword : word.head?.any Char.isDigit = false) :
      d.positional.map Char.toLower ≠ word := by
    rintro rfl
    rw [hcs, List.map_cons, toLower_of_isDigit hc, List.head?_cons, Option.any_some,
      hc] at hword
    cases hword
  have hnan : d.positional.map Char.toLower ≠ "nan".toList := hne (by decide)
  have hinf : d.positional.map Char.toLower ≠ "inf".toList := hne (by decide)
  have hinfinity : d.positional.map Char.toLower ≠ "infinity".toList := hne (by decide)
  simp only [readMagnitude?, hread, Option.map_some, hdecimal]
  rw [if_neg hnan, if_neg (not_or.mpr ⟨hinf, hinfinity⟩)]

theorem text_finite {x : Binary64} (hx : x.isFinite = true) :
    x.text = (if x.isNegative then ['-'] else []) ++ x.shortest.positional := by
  cases x with
  | nan => cases hx
  | infinity negative => cases hx
  | finite negative significand exponent h => rfl

theorem ofText?_of_isDigit {c : Char} {cs : List Char} (hc : c.isDigit = true) :
    ofText? (c :: cs) = readMagnitude? false (c :: cs) := by
  unfold ofText?
  split
  · rename_i h
    cases h
    cases hc
  · rename_i h
    cases h
    cases hc
  · rfl

/-- The text of a value is read as that value. -/
theorem ofText?_text (x : Binary64) : ofText? x.text = some x := by
  cases hx : x.isFinite with
  | true =>
      have hread := readMagnitude?_positional x.isNegative x.shortest
      rw [ofDecimal_shortest hx] at hread
      rw [text_finite hx]
      cases hnegative : x.isNegative with
      | true =>
          rw [hnegative] at hread
          exact hread
      | false =>
          obtain ⟨⟨c, cs, hcs, hc⟩, -⟩ := x.shortest.positional_chars
          rw [hnegative, hcs] at hread
          rw [if_neg Bool.false_ne_true, List.nil_append, hcs, ofText?_of_isDigit hc]
          exact hread
  | false =>
      cases x with
      | nan => decide
      | infinity negative => cases negative <;> decide
      | finite negative significand exponent h => cases hx

theorem isBlank_of_isDigit {c : Char} (hc : c.isDigit = true) : Text.isBlank c = false := by
  obtain ⟨hge, hle⟩ := Bool.and_eq_true_iff.mp hc
  refine Text.isBlank_of_bounds (Nat.le_trans ?_ (of_decide_eq_true hge))
    (Nat.le_trans (of_decide_eq_true hle) ?_)
  · decide
  · decide

theorem isBlank_of_mem_text {x : Binary64} {c : Char} (hc : c ∈ x.text) :
    Text.isBlank c = false := by
  cases hx : x.isFinite with
  | true =>
      rw [text_finite hx] at hc
      rcases List.mem_append.mp hc with hc | hc
      · split at hc
        · rw [List.mem_singleton.mp hc]
          decide
        · cases hc
      · rcases x.shortest.positional_chars.2 c hc with hdigit | rfl
        · exact isBlank_of_isDigit hdigit
        · decide
  | false =>
      have hall : x.text.all (!Text.isBlank ·) = true := by
        cases x with
        | nan => decide
        | infinity negative => cases negative <;> decide
        | finite negative significand exponent h => cases hx
      simpa using List.all_eq_true.mp hall c hc

end Binary64
end LivePage
