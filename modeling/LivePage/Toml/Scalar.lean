import LivePage.Toml.Calendar
import LivePage.Toml.Number

/-!
# Values of one word

A truth value, a number, a date or a time is one run of characters.  Only a date
and a time may have a space between them.
-/

namespace LivePage
namespace Toml

/-- Whether a character may stand in a value of one word. -/
def isWordChar (c : Char) : Bool :=
  c.isAlphanum || c = '_' || c = '-' || c = '+' || c = '.' || c = ':'

def Value.ofWord? (word : List Char) : Option Value :=
  if word = "true".toList then some (.boolean true)
  else if word = "false".toList then some (.boolean false)
  else if isDateTime word then some (.dateTime (String.ofList word))
  else (readInteger? word).or (readFloat? word)

/-- The first word of a text, and what is left.  A date takes a time with it that
follows after one space. -/
def splitWord (cs : List Char) : List Char × List Char :=
  let word := cs.takeWhile isWordChar
  let rest := cs.dropWhile isWordChar
  match rest with
  | ' ' :: d :: more =>
    if d.isDigit && skipDate? word = some [] then
      (word ++ ' ' :: (d :: more).takeWhile isWordChar, (d :: more).dropWhile isWordChar)
    else (word, rest)
  | _ => (word, rest)

def readWord? (cs : List Char) : Option (Value × List Char) :=
  (Value.ofWord? (splitWord cs).1).map (·, (splitWord cs).2)

end Toml
end LivePage
