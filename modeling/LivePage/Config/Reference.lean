import LivePage.Config.Environment
import LivePage.Text.Alphanumeric

/-!
# References to variables

A text may refer to variables by name, with or without braces, and in braces
give a text that stands in for a variable that has none.  The values and the
stand-ins are not looked at again.  A text without any reference in braces is
taken as it is.

Finding references and putting in what they refer to is left to a library for such
expansions, and `pieces` stands for it.  Assumed of it are the rules there: it reads
from left to right, a reference in braces ends at the first closing brace, a name
without braces is as long as it can be, and two dollar signs are one that is plain.
-/

namespace LivePage
namespace Reference

/-- A piece of a text. -/
inductive Piece where
  | plain (text : List Char)
  /-- A variable, and what stands in for it if it is not set. -/
  | variable (name : List Char) (standIn : Option (List Char))
  deriving DecidableEq, Repr

/-- A piece as it is written. -/
def Piece.text : Piece → List Char
  | .plain text => text
  | .variable name none => ['$', '\x7b'] ++ name ++ ['\x7d']
  | .variable name (some standIn) =>
    ['$', '\x7b'] ++ name ++ [':', '-'] ++ standIn ++ ['\x7d']

/-- Whether a character may stand in a name without braces. -/
def isNameChar (c : Char) : Bool :=
  Text.isAlphanumeric c || c = '_'

/-- Splits a text at the first mark before a stand-in. -/
def splitMark : List Char → List Char × Option (List Char)
  | ':' :: '-' :: standIn => ([], some standIn)
  | [] => ([], none)
  | c :: cs =>
    let (name, standIn) := splitMark cs
    (c :: name, standIn)

/-- What stands between braces: a name, or a name that is not empty with a mark
and a stand-in. -/
def Piece.ofBraces (body : List Char) : Piece :=
  match splitMark body with
  | ([], _) => .variable body none
  | (name, standIn) => .variable name standIn

/-- The pieces of a text.  An opening brace without a closing one is plain text,
and so is a dollar sign before anything but a name; two dollar signs are one
plain one. -/
def pieces (cs : List Char) : List Piece :=
  match cs with
  | [] => []
  | '$' :: '\x7b' :: rest =>
    match _h : rest.dropWhile (· ≠ '\x7d') with
    | [] => .plain ['$', '\x7b'] :: pieces rest
    | _ :: after => .ofBraces (rest.takeWhile (· ≠ '\x7d')) :: pieces after
  | '$' :: '$' :: rest => .plain ['$'] :: pieces rest
  | '$' :: rest =>
    let name := rest.takeWhile isNameChar
    if name = [] then .plain ['$'] :: pieces rest
    else .variable name none :: pieces (rest.dropWhile isNameChar)
  | c :: rest => .plain [c] :: pieces rest
termination_by cs.length
decreasing_by
  · simp only [List.length_cons]
    omega
  · have := (List.dropWhile_suffix (l := rest) (· ≠ '\x7d')).length_le
    rw [_h] at this
    simp only [List.length_cons] at this ⊢
    omega
  · simp only [List.length_cons]
    omega
  · simp
  · have := (List.dropWhile_suffix (l := rest) isNameChar).length_le
    simp only [List.length_cons]
    omega
  · simp

/-- What a piece stands for, or the name of a variable that is missing. -/
def Piece.resolve (e : Environment) : Piece → Except (List Char) (List Char)
  | .plain text => .ok text
  | .variable name standIn =>
    match (e.value? name).or standIn with
    | some value => .ok value
    | none => .error name

/-- The names of the variables that a text refers to. -/
def names (cs : List Char) : List (List Char) :=
  (pieces cs).filterMap fun
    | .plain _ => none
    | .variable name _ => some name

/-- Whether a text has the beginning of a reference in braces. -/
def hasBrace : List Char → Bool
  | '$' :: '\x7b' :: _ => true
  | _ :: cs => hasBrace cs
  | [] => false

/-- Puts in what a text refers to, or names the first variable that is missing. -/
def expand (e : Environment) (cs : List Char) : Except (List Char) (List Char) :=
  if hasBrace cs then ((pieces cs).mapM (Piece.resolve e)).map List.flatten else .ok cs

end Reference
end LivePage
