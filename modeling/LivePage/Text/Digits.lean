/-!
# Decimal digits

Reading strings of ASCII digits as numbers.
-/

namespace LivePage
namespace Digits

def digit (c : Char) : Nat :=
  c.toNat - '0'.toNat

/-- The number that a string of decimal digits denotes. -/
def value (cs : List Char) : Nat :=
  cs.foldl (fun n c => n * 10 + digit c) 0

theorem value_eq_ofDigitChars (cs : List Char) : value cs = Nat.ofDigitChars 10 cs 0 := by
  simp only [value, digit, Nat.ofDigitChars_eq_foldl, Nat.mul_comm]

/-- Whether a text is a non-empty string of decimal digits. -/
def isNumeral (cs : List Char) : Bool :=
  !cs.isEmpty && cs.all Char.isDigit

theorem isNumeral_iff {cs : List Char} :
    isNumeral cs = true ↔ cs ≠ [] ∧ ∀ c ∈ cs, c.isDigit = true := by
  simp [isNumeral]

end Digits
end LivePage
