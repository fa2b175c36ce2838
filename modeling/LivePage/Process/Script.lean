import LivePage.Text.Digits

/-!
# Scripts

The scripts of a shell, as far as a rebuild command needs one that fails, is ended by
a signal or writes something.  They stand for the shell of a system, which can do more.

A script is a sequence of simple commands.  Its characters are first marked, so
that quoted ones stand for themselves; then it is split into commands, parameters
are put in, and the words of a command are split.
-/

namespace LivePage
namespace Script

/-- A character of a script with its role. -/
inductive Mark where
  /-- One that may separate words or commands. -/
  | bare (c : Char)
  /-- One that stands for itself. -/
  | quoted (c : Char)
  /-- The dollar sign before a parameter.  Outside quotes, blanks in the value
  separate words. -/
  | dollar (separates : Bool)
  /-- Quotes, which make a word even if there is nothing in them. -/
  | quote
  deriving DecidableEq, Repr

/-- The quotes around a character. -/
inductive Quotes where
  | outside
  | single
  | double
  deriving DecidableEq, Repr

/-- The marked characters of a script, if each quote is closed. -/
def marks? : Quotes → List Char → Option (List Mark)
  | .outside, [] => some []
  | _, [] => none
  | .outside, '\\' :: c :: cs => (marks? .outside cs).map (.quoted c :: ·)
  | .double, '\\' :: c :: cs =>
    (marks? .double cs).map fun rest =>
      if c ∈ ['$', '\x60', '\x22', '\\'] then .quoted c :: rest
      else .quoted '\\' :: .quoted c :: rest
  | quotes, c :: cs =>
    match quotes with
    | .outside =>
      if c = '\x27' then (marks? .single cs).map (.quote :: ·)
      else if c = '\x22' then (marks? .double cs).map (.quote :: ·)
      else if c = '$' then (marks? .outside cs).map (.dollar true :: ·)
      else (marks? .outside cs).map (.bare c :: ·)
    | .single =>
      if c = '\x27' then marks? .outside cs
      else (marks? .single cs).map (.quoted c :: ·)
    | .double =>
      if c = '\x22' then marks? .outside cs
      else if c = '$' then (marks? .double cs).map (.dollar false :: ·)
      else (marks? .double cs).map (.quoted c :: ·)

/-- When a command runs, by how the one before it ended. -/
inductive Condition where
  | always
  | afterSuccess
  | afterFailure
  deriving DecidableEq, Repr

/-- Puts a mark at the front of the first command. -/
def prepend (m : Mark) : List (Condition × List Mark) → List (Condition × List Mark)
  | [] => [(.always, [m])]
  | (condition, ms) :: rest => (condition, m :: ms) :: rest

def commands (condition : Condition) : List Mark → List (Condition × List Mark)
  | [] => [(condition, [])]
  | .bare '&' :: .bare '&' :: ms => (condition, []) :: commands .afterSuccess ms
  | .bare '|' :: .bare '|' :: ms => (condition, []) :: commands .afterFailure ms
  | .bare ';' :: ms => (condition, []) :: commands .always ms
  | .bare '\n' :: ms => (condition, []) :: commands .always ms
  | m :: ms => prepend m (commands condition ms)

def Mark.char? : Mark → Option Char
  | .bare c | .quoted c => some c
  | .dollar _ => some '$'
  | .quote => none

/-- Whether a character may stand in the name of a parameter. -/
def isNameChar (c : Char) : Bool :=
  c.isAlphanum || c = '_'

/-- The marks of a name at the front, without braces. -/
def nameMarks (ms : List Mark) : List Mark :=
  ms.takeWhile fun m => (m.char?.map isNameChar).getD false

/-- Splits off the name of a parameter after its dollar sign. -/
def splitName (ms : List Mark) : List Char × List Mark :=
  match ms with
  | [] => ([], [])
  | m :: rest =>
    match m.char? with
    | none => ([], ms)
    | some c =>
      if c.isDigit || c ∈ ['?', '$', '#', '@', '*'] then ([c], rest)
      else if c = '\x7b' then
        let name := rest.takeWhile (·.char? ≠ some '\x7d')
        (name.filterMap Mark.char?, (rest.drop (name.length + 1)))
      else ((nameMarks ms).filterMap Mark.char?, ms.drop (nameMarks ms).length)

/-- The marks of the value of a parameter. -/
def valueMarks (separates : Bool) (value : List Char) : List Mark :=
  value.map fun c => if separates && c.isWhitespace then .bare c else .quoted c

/-- Puts the values of parameters into a command, at most the given number of
them. -/
def substitute (value : List Char → List Char) : Nat → List Mark → List Mark
  | 0, ms => ms
  | _, [] => []
  | limit + 1, .dollar separates :: ms =>
    let (name, rest) := splitName ms
    if name = [] then .quoted '$' :: substitute value limit rest
    else valueMarks separates (value name) ++ substitute value limit rest
  | limit + 1, m :: ms => m :: substitute value limit ms

def Mark.isBlank : Mark → Bool
  | .bare c => c.isWhitespace
  | _ => false

/-- Splits a command into words.  A redirection begins a word of its own, except
after the number of an output. -/
def splitWords : List Mark → List Mark → List (List Mark)
  | word, [] => if word = [] then [] else [word]
  | word, m :: ms =>
    if m.isBlank then (if word = [] then [] else [word]) ++ splitWords [] ms
    else if m = .bare '>' ∧ word ∉ [[], [.bare '1'], [.bare '2'], [.bare '>']] then
      word :: splitWords [m] ms
    else splitWords (word ++ [m]) ms

def wordText (word : List Mark) : String :=
  String.ofList (word.filterMap Mark.char?)

/-- Whether a word is a redirection. -/
def isRedirection (word : List Mark) : Bool :=
  word.head? = some (.bare '>') ||
    (word.tail.head? = some (.bare '>') && word.head? ∈ [some (.bare '1'), some (.bare '2')])

end Script
end LivePage
