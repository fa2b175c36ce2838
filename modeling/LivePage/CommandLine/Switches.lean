/-!
# Switches

A command line is a list of words.  Switches have a name, some also a letter, and
some take a value, which stands in the same word or in the next one.  All words
after a double dash are left as they are.
-/

namespace LivePage
namespace CommandLine

/-- A switch that a command knows. -/
structure Switch where
  name : String
  letter : Option Char := none
  takesValue : Bool
  deriving DecidableEq, Repr

/-- A switch that was given, with its value if it takes one. -/
structure Given where
  name : String
  value : Option String
  deriving DecidableEq, Repr

/-- What a command line says. -/
structure Words where
  switches : List Given
  /-- The words after a double dash. -/
  others : List String
  deriving DecidableEq, Repr

/-- What a word says: the switches in it, and the one that takes the next word as
its value, if one does. -/
abbrev Reading := List Given × Option Switch

/-- Reads letters of switches.  What follows the letter of a switch that takes a
value is the value. -/
def readLetters? (known : List Switch) : List Char → Option Reading
  | [] => some ([], none)
  | c :: cs =>
    match known.find? (·.letter = some c), cs with
    | none, _ => none
    | some s, [] => some (if s.takesValue then ([], some s) else ([⟨s.name, none⟩], none))
    | some s, '=' :: value =>
      if s.takesValue then some ([⟨s.name, some (String.ofList value)⟩], none) else none
    | some s, cs =>
      if s.takesValue then some ([⟨s.name, some (String.ofList cs)⟩], none)
      else (readLetters? known cs).map fun (given, open?) => (⟨s.name, none⟩ :: given, open?)

/-- Reads the name of a switch, which an equals sign and a value may follow. -/
def readName? (known : List Switch) (cs : List Char) : Option Reading :=
  match known.find? (·.name.toList = cs.takeWhile (· ≠ '=')), cs.dropWhile (· ≠ '=') with
  | none, _ => none
  | some s, [] => some (if s.takesValue then ([], some s) else ([⟨s.name, none⟩], none))
  | some s, _ :: value =>
    if s.takesValue then some ([⟨s.name, some (String.ofList value)⟩], none) else none

/-- Whether a word holds switches, or is the double dash. -/
def isSwitch (word : String) : Bool :=
  match word.toList with
  | '-' :: _ :: _ => true
  | _ => false

def readWord? (known : List Switch) (word : String) : Option Reading :=
  match word.toList with
  | '-' :: '-' :: cs => readName? known cs
  | '-' :: cs => if cs.isEmpty then none else readLetters? known cs
  | _ => none

/-- Reads a command line.  There is none for a switch that is not known, a value
that is missing or not taken, and a stray word. -/
def Words.of? (known : List Switch) : List String → Option Words
  | [] => some ⟨[], []⟩
  | word :: words =>
    if word = "--" then some ⟨[], words⟩
    else
      match readWord? known word, words with
      | none, _ => none
      | some (given, none), words => (of? known words).map fun w =>
        { w with switches := given ++ w.switches }
      | some (_, some _), [] => none
      | some (given, some s), value :: words =>
        if isSwitch value then none
        else (of? known words).map fun w =>
          { w with switches := given ++ ⟨s.name, some value⟩ :: w.switches }

namespace Words

/-- Whether no switch is given twice. -/
def isOnce (w : Words) : Bool :=
  decide (w.switches.map Given.name).Nodup

def has (w : Words) (name : String) : Bool :=
  w.switches.any (·.name = name)

/-- The value of a switch, if it is given. -/
def value? (w : Words) (name : String) : Option String :=
  (w.switches.find? (·.name = name)).bind Given.value

end Words
end CommandLine
end LivePage
