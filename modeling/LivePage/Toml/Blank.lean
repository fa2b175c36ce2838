/-!
# Space between the parts of a document

Blanks, line ends and comments.  A reader takes the characters left to read and
gives what is left after it, or `none` if the document is malformed there.
-/

namespace LivePage
namespace Toml

/-- Whether a character may stand in a comment or a string on one line: no
control character but the tab. -/
def isTextChar (c : Char) : Bool :=
  c = '\t' || (0x20 ≤ c.toNat && c.toNat ≠ 0x7F)

/-- Whether a character is a blank within a line. -/
def isBlank (c : Char) : Bool :=
  c = ' ' || c = '\t'

def skipBlanks (cs : List Char) : List Char :=
  cs.dropWhile isBlank

/-- Skips blanks, line ends and comments, from inside a comment or from outside
one. -/
def skipSpace : Bool → List Char → Option (List Char)
  | _, '\n' :: cs => skipSpace false cs
  | _, '\r' :: '\n' :: cs => skipSpace false cs
  | true, [] => some []
  | true, c :: cs => if isTextChar c then skipSpace true cs else none
  | false, '#' :: cs => skipSpace true cs
  | false, c :: cs => if isBlank c then skipSpace false cs else some (c :: cs)
  | false, [] => some []

/-- Skips the comment that begins here, if one does. -/
def skipComment : List Char → List Char
  | '#' :: cs => cs.dropWhile isTextChar
  | cs => cs

/-- Skips to the next line.  Nothing but blanks and a comment may come before
its end. -/
def skipLineEnd (cs : List Char) : Option (List Char) :=
  match skipComment (skipBlanks cs) with
  | [] => some []
  | '\n' :: cs => some cs
  | '\r' :: '\n' :: cs => some cs
  | _ => none

end Toml
end LivePage
