import Mathlib.Data.Int.ConditionallyCompleteOrder
import Mathlib.Order.ConditionallyCompleteLattice.Basic
import Mathlib.Order.WithBot
import LivePage.Binary64.Basic

/-!
# The order of binary64 numbers

Every value but NaN has a place among the integers and two infinities.  Comparisons go by
the places of values, and so do the greater of two values and the nearest one between
bounds.
-/

namespace LivePage
namespace Binary64

/-- The place of a value that is no NaN, in steps of `2 ^ (-1074)`.  Both zeros have the
same one. -/
def rank : Binary64 → WithBot (WithTop Int)
  | .nan | .infinity true => ⊥
  | .infinity false => ⊤
  | .finite negative significand exponent canonical =>
    ((finite negative significand exponent canonical).units : WithTop Int)

/-- Whether two values are the same number. -/
def equals (x y : Binary64) : Bool :=
  x.le y && y.le x

variable {x y z : Binary64}

theorem isNaN_zero : (0 : Binary64).isNaN = false := by
  decide

/-! ## Comparisons -/

theorem lt_iff_rank_lt (hx : x.isNaN = false) (hy : y.isNaN = false) :
    x.lt y = true ↔ x.rank < y.rank := by
  cases x with
  | nan => cases hx
  | infinity n =>
      cases y with
      | nan => cases hy
      | infinity m => cases n <;> cases m <;> simp [lt, rank]
      | finite => cases n <;> simp [lt, rank]
  | finite =>
      cases y with
      | nan => cases hy
      | infinity m =>
          cases m with
          | false =>
              have hbelow (n : Int) : ((n : WithTop Int) : WithBot (WithTop Int)) < ⊤ :=
                WithBot.coe_lt_coe.mpr (WithTop.coe_lt_top n)
              simp [lt, rank, hbelow]
          | true => simp [lt, rank]
      | finite => simp [lt, rank]

theorem le_iff_rank_le (hx : x.isNaN = false) (hy : y.isNaN = false) :
    x.le y = true ↔ x.rank ≤ y.rank := by
  rw [← not_lt, ← lt_iff_rank_lt hy hx]
  simp [le, hx, hy]

theorem equals_iff_rank_eq (hx : x.isNaN = false) (hy : y.isNaN = false) :
    x.equals y = true ↔ x.rank = y.rank := by
  rw [equals, Bool.and_eq_true, le_iff_rank_le hx hy, le_iff_rank_le hy hx]
  exact le_antisymm_iff.symm

/-! ## Maxima and bounds -/

theorem max_of_isNaN (hx : x.isNaN = true) : x.max y = y := by
  rw [max, if_pos hx]

theorem isNaN_max (hy : y.isNaN = false) : (x.max y).isNaN = false := by
  unfold max
  split_ifs with hx hnan hlt
  · exact hy
  · simp [hy] at hnan
  · exact eq_false_of_ne_true hx
  · exact hy

theorem rank_max (hx : x.isNaN = false) (hy : y.isNaN = false) :
    (x.max y).rank = Max.max x.rank y.rank := by
  have hlt := lt_iff_rank_lt hy hx
  simp only [max, hx, hy, Bool.false_eq_true, if_false]
  split_ifs with h
  · exact (max_eq_left (hlt.mp h).le).symm
  · exact (max_eq_right (not_lt.mp (mt hlt.mpr h))).symm

theorem isNaN_clamp (hx : x.isNaN = false) (hy : y.isNaN = false) (hz : z.isNaN = false) :
    (x.clamp y z).isNaN = false := by
  unfold clamp
  split_ifs <;> assumption

/-- Between bounds in order, a value is at the greater of the least one and what the
greatest one leaves of it. -/
theorem rank_clamp (hx : x.isNaN = false) (hy : y.isNaN = false) (hz : z.isNaN = false)
    (hyz : y.rank ≤ z.rank) :
    (x.clamp y z).rank = Max.max y.rank (min x.rank z.rank) := by
  have hleast := lt_iff_rank_lt hx hy
  have hgreatest := lt_iff_rank_lt hz hx
  unfold clamp
  split_ifs with hbelow habove
  · rw [max_eq_left]
    exact (min_le_left _ _).trans (hleast.mp hbelow).le
  · rw [min_eq_right (hgreatest.mp habove).le, max_eq_right hyz]
  · rw [min_eq_left (not_lt.mp (mt hgreatest.mpr habove)),
      max_eq_right (not_lt.mp (mt hleast.mpr hbelow))]

/-! ## Between a bound and whatever is above it -/

section ClampMax

variable {v : Binary64} (hx : x.isNaN = false) (hy : y.isNaN = false)

include hy in
theorem rank_le_rank_max (v : Binary64) : y.rank ≤ (v.max y).rank := by
  by_cases hv : v.isNaN = true
  · rw [max_of_isNaN hv]
  · rw [rank_max (eq_false_of_ne_true hv) hy]
    exact le_max_right _ _

include hy in
theorem le_max (v : Binary64) : y.le (v.max y) = true := by
  rw [le_iff_rank_le hy (isNaN_max hy)]
  exact rank_le_rank_max hy v

include hy in
theorem rank_max_eq (hv : v.isNaN = true ∨ v.lt y = true) : (v.max y).rank = y.rank := by
  by_cases hnan : v.isNaN = true
  · rw [max_of_isNaN hnan]
  · have hv := hv.resolve_left hnan
    have hnan := eq_false_of_ne_true hnan
    rw [rank_max hnan hy, max_eq_right ((lt_iff_rank_lt hnan hy).mp hv).le]

include hx hy

theorem isNaN_clamp_max (v : Binary64) : (x.clamp y (v.max y)).isNaN = false :=
  isNaN_clamp hx hy (isNaN_max hy)

theorem rank_clamp_max (v : Binary64) :
    (x.clamp y (v.max y)).rank = Max.max y.rank (min x.rank (v.max y).rank) :=
  rank_clamp hx hy (isNaN_max hy) (rank_le_rank_max hy v)

theorem le_clamp_max (v : Binary64) : y.le (x.clamp y (v.max y)) = true := by
  rw [le_iff_rank_le hy (isNaN_clamp_max hx hy v), rank_clamp_max hx hy]
  exact le_max_left _ _

theorem clamp_max_le (v : Binary64) : (x.clamp y (v.max y)).le (v.max y) = true := by
  rw [le_iff_rank_le (isNaN_clamp_max hx hy v) (isNaN_max hy), rank_clamp_max hx hy]
  exact max_le (rank_le_rank_max hy v) (min_le_right _ _)

theorem clamp_max_equals_bound (hv : v.isNaN = true ∨ v.lt y = true) :
    (x.clamp y (v.max y)).equals y = true := by
  rw [equals_iff_rank_eq (isNaN_clamp_max hx hy v) hy, rank_clamp_max hx hy, rank_max_eq hy hv]
  exact max_eq_left (min_le_right _ _)

theorem clamp_max_equals_self (hleast : y.le x = true) (hmost : x.le (v.max y) = true) :
    (x.clamp y (v.max y)).equals x = true := by
  have hleast := (le_iff_rank_le hy hx).mp hleast
  have hmost := (le_iff_rank_le hx (isNaN_max hy)).mp hmost
  rw [equals_iff_rank_eq (isNaN_clamp_max hx hy v) hx, rank_clamp_max hx hy,
    min_eq_left hmost, max_eq_right hleast]

theorem max_equals_self (hleast : y.le x = true) : (x.max y).equals x = true := by
  have hleast := (le_iff_rank_le hy hx).mp hleast
  rw [equals_iff_rank_eq (isNaN_max hy) hx, rank_max hx hy, max_eq_left hleast]

end ClampMax

end Binary64
end LivePage
