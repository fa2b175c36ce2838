import LivePage.Binary64.Decimal
import LivePage.Toml.Quoted
import LivePage.Toml.Value

/-!
# Numbers

Integers are written in base ten with an optional sign, or without a sign in base
sixteen, eight or two.  Floats have a fraction, an exponent or both, or are one of
the words for infinity and NaN.  An underscore may stand between two digits.  A
number of any size can be written; whether it is too large shows where it is used.
-/

namespace LivePage
namespace Toml

/-- The digits of a numeral, without the underscores between them. -/
def digits? (isDigit : Char → Bool) : List Char → Option (List Char)
  | [] => none
  | [c] => if isDigit c then some [c] else none
  | c :: '_' :: cs => if isDigit c then (digits? isDigit cs).map (c :: ·) else none
  | c :: cs => if isDigit c then (digits? isDigit cs).map (c :: ·) else none

/-- The digits of a numeral in base ten that does not begin with a needless
zero. -/
def wholeDigits? (cs : List Char) : Option (List Char) :=
  (digits? Char.isDigit cs).filter fun ds => ds.length = 1 || ds.head? ≠ some '0'

/-- Reads digits of a base up to sixteen. -/
def readRadix? (base : Nat) (cs : List Char) : Option Value := do
  let ds ← digits? (fun c => ((hexDigit? c).map (decide <| · < base)).getD false) cs
  some (.integer (ds.foldl (fun n c => n * base + (hexDigit? c).getD 0) 0 : Nat))

/-- Splits off a sign.  The flag tells a minus. -/
def splitSign : List Char → Bool × List Char
  | '-' :: cs => (true, cs)
  | '+' :: cs => (false, cs)
  | cs => (false, cs)

def readInteger? (cs : List Char) : Option Value :=
  match cs with
  | '0' :: 'x' :: ds => readRadix? 16 ds
  | '0' :: 'o' :: ds => readRadix? 8 ds
  | '0' :: 'b' :: ds => readRadix? 2 ds
  | _ => do
    let (negative, ds) := splitSign cs
    let n : Int := Digits.value (← wholeDigits? ds)
    some (.integer (if negative then -n else n))

/-- Reads the exponent of a float: nothing, or a mark and a numeral with an
optional sign. -/
def readPower? : List Char → Option Int
  | [] => some 0
  | mark :: cs =>
    if mark = 'e' ∨ mark = 'E' then do
      let (negative, ds) := splitSign cs
      let n : Int := Digits.value (← digits? Char.isDigit ds)
      some (if negative then -n else n)
    else none

/-- Whether a character marks the exponent of a float. -/
def isPowerMark (c : Char) : Bool :=
  c = 'e' || c = 'E'

/-- Reads the digits of a float.  Without a fraction and an exponent it is none. -/
def readDecimalFloat? (cs : List Char) : Option Decimal := do
  let whole ← wholeDigits? (cs.takeWhile fun c => c ≠ '.' && !isPowerMark c)
  match cs.dropWhile fun c => c ≠ '.' && !isPowerMark c with
  | '.' :: rest =>
    let fraction ← digits? Char.isDigit (rest.takeWhile (!isPowerMark ·))
    let power ← readPower? (rest.dropWhile (!isPowerMark ·))
    some (.ofText whole fraction power)
  | [] => none
  | rest => some (.ofText whole [] (← readPower? rest))

def readFloat? (cs : List Char) : Option Value :=
  let (negative, cs) := splitSign cs
  if cs = "inf".toList then some (.float (.infinity negative))
  else if cs = "nan".toList then some (.float .nan)
  else do
    let x := Binary64.ofDecimal negative (← readDecimalFloat? cs)
    some (if x.isFinite then .float x else .hugeFloat)

end Toml
end LivePage
