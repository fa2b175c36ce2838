import LivePage.Binary64.Basic
import LivePage.Text.Digits

/-!
# Decimal text of binary64 numbers

A finite value is written in positional notation with the fewest significant
digits that read back as the same value; of two such decimals the nearer one is
taken, and of two equally near ones the greater.  Text is read exactly and
rounded to the nearest value.
-/

namespace LivePage

/-- The number `digits * 10 ^ exponent`. -/
structure Decimal where
  digits : Nat
  exponent : Int
  deriving DecidableEq, Repr

namespace Decimal

/-- The decimal digits of a natural number. -/
def digitsOf (n : Nat) : List Char :=
  Nat.toDigits 10 n

/-- A decimal as the quotient of two natural numbers. -/
def ratio (d : Decimal) : Nat × Nat :=
  (d.digits * Nat.pow 10 d.exponent.toNat, Nat.pow 10 (-d.exponent).toNat)

/-- The number written by digits before and after a point and a power of ten. -/
def ofText (whole fraction : List Char) (exponent : Int) : Decimal where
  digits := Digits.value (whole ++ fraction)
  exponent := exponent - fraction.length

/-- Positional notation, without a point if there is nothing after it. -/
def positional (d : Decimal) : List Char :=
  if 0 ≤ d.exponent then digitsOf (d.digits * Nat.pow 10 d.exponent.toNat)
  else
    let places := (-d.exponent).toNat
    let fraction := digitsOf (d.digits % Nat.pow 10 places)
    digitsOf (d.digits / Nat.pow 10 places) ++ '.' ::
      (List.replicate (places - fraction.length) '0' ++ fraction)

end Decimal

namespace Binary64

/-- The value nearest to a decimal, negated or not.  Decimals far out of range
are told by the number of their digits. -/
def ofDecimal (negative : Bool) (d : Decimal) : Binary64 :=
  let leading : Int := (Decimal.digitsOf d.digits).length + d.exponent
  if d.digits = 0 ∨ leading < -330 then ofRatio negative 0 1
  else if 310 < leading then .infinity negative
  else ofRatio negative d.ratio.1 d.ratio.2

/-- The decimals next to `num / den` with the given exponent, the lower one
first. -/
def neighbours (num den : Nat) (exponent : Int) : Decimal × Decimal :=
  let lower := num * Nat.pow 10 (-exponent).toNat / (den * Nat.pow 10 exponent.toNat)
  (⟨lower, exponent⟩, ⟨lower + 1, exponent⟩)

/-- Whether the upper one of two neighbours is at least as near to `num / den` as
the lower one. -/
def upperIsNearer (num den : Nat) (lower : Decimal) : Bool :=
  (2 * lower.digits + 1) * (den * Nat.pow 10 lower.exponent.toNat) ≤
    2 * num * Nat.pow 10 (-lower.exponent).toNat

/-- The decimal with the given exponent that reads back as `x` and is nearest to
it. -/
def decimalAt? (x : Binary64) (exponent : Int) : Option Decimal :=
  let num := x.magnitude
  let den := Nat.pow 2 1074
  let (lower, upper) := neighbours num den exponent
  match decide (ofDecimal x.isNegative lower = x), decide (ofDecimal x.isNegative upper = x) with
  | true, true => some (if upperIsNearer num den lower then upper else lower)
  | true, false => some lower
  | false, true => some upper
  | false, false => none

/-- The decimal equal to a finite value. -/
def exactDecimal (x : Binary64) : Decimal :=
  match x with
  | .finite _ significand exponent _ =>
    if 0 ≤ exponent then ⟨significand * Nat.pow 2 exponent.toNat, 0⟩
    else ⟨significand * Nat.pow 5 (-exponent).toNat, exponent⟩
  | _ => ⟨0, 0⟩

/-- The exponent of the leading decimal digit of a positive finite value, or the
one above it. -/
def leadingExponent (x : Binary64) : Int :=
  ((Nat.log2 x.magnitude : Int) - 1073) * 30103 / 100000 + 1

/-- The shortest decimal that reads back as a finite value. -/
def shortest (x : Binary64) : Decimal :=
  if x.magnitude = 0 then ⟨0, 0⟩
  else
    let found := (List.range 20).findSome? fun (i : Nat) =>
      x.decimalAt? (x.leadingExponent - (i : Int))
    found.getD x.exactDecimal

def text : Binary64 → List Char
  | .nan => "NaN".toList
  | .infinity false => "inf".toList
  | .infinity true => "-inf".toList
  | x => (if x.isNegative then ['-'] else []) ++ x.shortest.positional

/-- Reads a power of ten: nothing, or a mark, a sign if wanted, and digits. -/
def readExponent? : List Char → Option Int
  | [] => some 0
  | mark :: cs =>
    if mark = 'e' ∨ mark = 'E' then
      match cs with
      | '-' :: ds => if Digits.isNumeral ds then some (-(Digits.value ds : Int)) else none
      | '+' :: ds => if Digits.isNumeral ds then some (Digits.value ds) else none
      | ds => if Digits.isNumeral ds then some (Digits.value ds) else none
    else none

/-- Reads digits with an optional point, at least one digit beside it, and an
optional power of ten. -/
def readDecimal? (cs : List Char) : Option Decimal :=
  let whole := cs.takeWhile Char.isDigit
  let (fraction, rest) :=
    match cs.dropWhile Char.isDigit with
    | '.' :: rest => (rest.takeWhile Char.isDigit, rest.dropWhile Char.isDigit)
    | rest => ([], rest)
  if whole = [] ∧ fraction = [] then none
  else (readExponent? rest).map (Decimal.ofText whole fraction)

def readMagnitude? (negative : Bool) (cs : List Char) : Option Binary64 :=
  let word := cs.map Char.toLower
  if word = "nan".toList then some .nan
  else if word = "inf".toList ∨ word = "infinity".toList then some (.infinity negative)
  else (readDecimal? cs).map (ofDecimal negative)

def ofText? : List Char → Option Binary64
  | '-' :: cs => readMagnitude? true cs
  | '+' :: cs => readMagnitude? false cs
  | cs => readMagnitude? false cs

end Binary64
end LivePage
