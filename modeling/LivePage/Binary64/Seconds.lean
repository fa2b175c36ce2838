import LivePage.Binary64.Basic
import LivePage.Duration

/-!
# Durations as binary64 seconds

A duration becomes the sum of its whole seconds and its part of a second, each
rounded.  Seconds become the duration nearest to their exact value, a half
nanosecond going to the even neighbour.
-/

namespace LivePage

def Duration.toSeconds (d : Duration) : Binary64 :=
  (Binary64.ofNat d.wholeSeconds).add ((Binary64.ofNat d.subsecond).divNat 1000000000)

/-- The duration nearest to a number of seconds.  There is none for a negative
number, for one that is not finite, and for one that is too large. -/
def Duration.ofSeconds? (x : Binary64) : Option Duration :=
  match x with
  | .finite negative significand exponent _ =>
    if negative ∧ significand ≠ 0 then none
    else
      Duration.ofNanoseconds? (roundHalfEven (significand * Nat.pow 2 exponent.toNat * 1000000000)
        (Nat.pow 2 (-exponent).toNat))
  | _ => none

end LivePage
