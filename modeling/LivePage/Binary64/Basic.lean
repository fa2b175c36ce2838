/-!
# Binary64 numbers

The values of the IEEE 754 binary64 format with exact integer parts, and its
arithmetic: each operation computes its result exactly and rounds it to the
nearest value, a tie going to the even significand.
-/

namespace LivePage

/-- The integer nearest to `num / den`; a half goes to the even neighbour. -/
def roundHalfEven (num den : Nat) : Nat :=
  let quotient := num / den
  let remainder := num % den
  if 2 * remainder < den then quotient
  else if den < 2 * remainder then quotient + 1
  else if quotient % 2 = 0 then quotient
  else quotient + 1

/-- The significands and exponents of finite values.  Each value has one of
them: a full significand, or the least exponent. -/
def Canonical (significand : Nat) (exponent : Int) : Prop :=
  significand < Nat.pow 2 53 ∧ -1074 ≤ exponent ∧ exponent ≤ 971 ∧
    (Nat.pow 2 52 ≤ significand ∨ exponent = -1074)

instance (significand : Nat) (exponent : Int) : Decidable (Canonical significand exponent) :=
  inferInstanceAs (Decidable (_ ∧ _))

/-- A binary64 value.  A finite one is `significand * 2 ^ exponent`, negated or
not. -/
inductive Binary64 where
  | nan
  | infinity (negative : Bool)
  | finite (negative : Bool) (significand : Nat) (exponent : Int)
      (canonical : Canonical significand exponent)
  deriving DecidableEq, Repr

namespace Binary64

/-- A value by its parts.  Parts beyond the largest value give infinity. -/
def ofParts (negative : Bool) (significand : Nat) (exponent : Int) : Binary64 :=
  if h : Canonical significand exponent then .finite negative significand exponent h
  else .infinity negative

/-- The exponent of the greatest power of two that is at most `num / den`, for
positive `num` and `den`. -/
def floorLog2 (num den : Nat) : Int :=
  let estimate : Int := (Nat.log2 num : Int) - Nat.log2 den
  if den * Nat.pow 2 estimate.toNat ≤ num * Nat.pow 2 (-estimate).toNat then estimate
  else estimate - 1

/-- The exponent of the last place of the values around `num / den`. -/
def lastPlace (num den : Nat) : Int :=
  max (-1074) (floorLog2 num den - 52)

/-- The value nearest to `num / den`, negated or not. -/
def ofRatio (negative : Bool) (num den : Nat) : Binary64 :=
  if num = 0 then ofParts negative 0 (-1074)
  else
    let place := lastPlace num den
    let significand :=
      roundHalfEven (num * Nat.pow 2 (-place).toNat) (den * Nat.pow 2 place.toNat)
    if significand = Nat.pow 2 53 then ofParts negative (Nat.pow 2 52) (place + 1)
    else ofParts negative significand place

/-- The value nearest to a natural number. -/
def ofNat (n : Nat) : Binary64 :=
  ofRatio false n 1

instance (n : Nat) : OfNat Binary64 n :=
  ⟨ofNat n⟩

/-- Whether a value is a number and no infinity. -/
def isFinite : Binary64 → Bool
  | .finite .. => true
  | _ => false

def isNaN : Binary64 → Bool
  | .nan => true
  | _ => false

/-- Whether a value carries a minus sign. -/
def isNegative : Binary64 → Bool
  | .nan => false
  | .infinity negative => negative
  | .finite negative .. => negative

/-- How often `2 ^ (-1074)` goes into the magnitude of a finite value. -/
def magnitude : Binary64 → Nat
  | .finite _ significand exponent _ => significand * Nat.pow 2 (exponent + 1074).toNat
  | _ => 0

/-- A finite value as a multiple of `2 ^ (-1074)`. -/
def units (x : Binary64) : Int :=
  if x.isNegative then -(x.magnitude : Int) else x.magnitude

/-- Whether `x < y`.  Nothing is below or above a NaN. -/
def lt : Binary64 → Binary64 → Bool
  | .nan, _ | _, .nan => false
  | .infinity n, .infinity m => n && !m
  | .infinity n, .finite .. => n
  | .finite .., .infinity m => !m
  | x, y => x.units < y.units

/-- Whether `x ≤ y`.  Nothing is at most or at least a NaN. -/
def le (x y : Binary64) : Bool :=
  !x.isNaN && !y.isNaN && !y.lt x

/-- The greater of two values.  A NaN gives way to the other one, and of two
equal ones the second is taken. -/
def max (x y : Binary64) : Binary64 :=
  if x.isNaN then y else if y.isNaN then x else if y.lt x then x else y

/-- The value nearest to `x` between two bounds.  A NaN stays. -/
def clamp (x least greatest : Binary64) : Binary64 :=
  if x.lt least then least else if greatest.lt x then greatest else x

/-- The sum of two values.  Opposite ones give a positive zero. -/
def add : Binary64 → Binary64 → Binary64
  | .nan, _ | _, .nan => .nan
  | .infinity n, .infinity m => if n = m then .infinity n else .nan
  | .infinity n, .finite .. => .infinity n
  | .finite .., .infinity m => .infinity m
  | x, y =>
    let sum := x.units + y.units
    let negative := if sum = 0 then x.isNegative && y.isNegative else sum < 0
    ofRatio negative sum.natAbs (Nat.pow 2 1074)

def mul (x y : Binary64) : Binary64 :=
  let negative := x.isNegative != y.isNegative
  match x, y with
  | .nan, _ | _, .nan => .nan
  | .infinity _, .infinity _ => .infinity negative
  | .infinity _, .finite .. => if y.magnitude = 0 then .nan else .infinity negative
  | .finite .., .infinity _ => if x.magnitude = 0 then .nan else .infinity negative
  | .finite .., .finite .. => ofRatio negative (x.magnitude * y.magnitude) (Nat.pow 2 2148)

/-- The quotient of a value and a positive number. -/
def divNat (x : Binary64) (n : Nat) : Binary64 :=
  match x with
  | .finite negative .. => ofRatio negative x.magnitude (n * Nat.pow 2 1074)
  | x => x

/-- Multiplies `product` by `x ^ n`, squaring `x` from bit to bit of `n`. -/
def powLoop (product x : Binary64) (n : Nat) : Binary64 :=
  let product := if n % 2 = 1 then product.mul x else product
  if n / 2 = 0 then product else powLoop product (x.mul x) (n / 2)
termination_by n
decreasing_by omega

/-- The power `x ^ n`, each multiplication rounded. -/
def pow (x : Binary64) (n : Nat) : Binary64 :=
  powLoop 1 x n

end Binary64
end LivePage
