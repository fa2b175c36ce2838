import LivePage.Text.Digits

/-!
# Dates and times

A date, a time of day, or both with an optional offset from universal time.
Seconds may be left out, and there must be such a day in the calendar.
-/

namespace LivePage
namespace Toml

/-- Reads exactly the given number of digits. -/
def readDigits? (count : Nat) (cs : List Char) : Option (Nat × List Char) :=
  let ds := cs.take count
  if ds.length = count ∧ ds.all Char.isDigit then some (Digits.value ds, cs.drop count)
  else none

/-- Reads two digits that denote at most the given number. -/
def readPair? (greatest : Nat) (cs : List Char) : Option (Nat × List Char) :=
  (readDigits? 2 cs).filter fun (n, _) => n ≤ greatest

def skip? (c : Char) : List Char → Option (List Char)
  | [] => none
  | d :: cs => if d = c then some cs else none

def daysIn (year month : Nat) : Nat :=
  if month = 2 then
    if year % 4 = 0 ∧ (year % 100 ≠ 0 ∨ year % 400 = 0) then 29 else 28
  else if month ∈ [4, 6, 9, 11] then 30
  else 31

def skipDate? (cs : List Char) : Option (List Char) := do
  let (year, cs) ← readDigits? 4 cs
  let (month, cs) ← readPair? 12 (← skip? '-' cs)
  let (day, cs) ← readPair? (daysIn year month) (← skip? '-' cs)
  if month = 0 ∨ day = 0 then none else some cs

/-- Skips a fraction of a second, if there is one. -/
def skipFraction? : List Char → Option (List Char)
  | '.' :: cs =>
    if (cs.takeWhile Char.isDigit).isEmpty then none else some (cs.dropWhile Char.isDigit)
  | cs => some cs

def skipTime? (cs : List Char) : Option (List Char) := do
  let (_, cs) ← readPair? 23 cs
  let (_, cs) ← readPair? 59 (← skip? ':' cs)
  match cs with
  | ':' :: cs =>
    let (_, cs) ← readPair? 60 cs
    skipFraction? cs
  | cs => some cs

/-- Skips an offset from universal time, if there is one. -/
def skipOffset? : List Char → Option (List Char)
  | [] => some []
  | sign :: cs =>
    if sign = 'Z' ∨ sign = 'z' then some cs
    else if sign = '+' ∨ sign = '-' then do
      let (_, cs) ← readPair? 23 cs
      let (_, cs) ← readPair? 59 (← skip? ':' cs)
      some cs
    else none

/-- Whether a character may stand between a date and a time. -/
def isDateMark (c : Char) : Bool :=
  c = 'T' || c = 't' || c = ' '

/-- Whether a text is a date, a time, or both. -/
def isDateTime (cs : List Char) : Bool :=
  match skipDate? cs with
  | some [] => true
  | some (mark :: time) => isDateMark mark && ((skipTime? time).bind skipOffset?) = some []
  | none => skipTime? cs = some []

end Toml
end LivePage
