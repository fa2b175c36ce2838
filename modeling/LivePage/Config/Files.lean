import LivePage.Text.Utf8

/-!
# Files

A tree of directories and files.  A place in it is the names on the way to it,
innermost first, so that the rest of a place is the directory around it.
-/

namespace LivePage

/-- A place in a tree of files. -/
abbrev Place := List String

namespace Place

def path (p : Place) : String :=
  "/" ++ "/".intercalate p.reverse

/-- A directory and those around it, nearest first. -/
def around : Place → List Place
  | [] => [[]]
  | name :: p => (name :: p) :: around p

end Place

/-- What can be found at a place. -/
inductive Entry where
  | directory
  | file (octets : List UInt8)
  deriving DecidableEq, Repr

/-- Why an entry gives no text. -/
inductive ReadFault where
  | directory
  | malformed
  deriving DecidableEq, Repr

def ReadFault.text : ReadFault → String
  | .directory => "Is a directory (os error 21)"
  | .malformed => "stream did not contain valid UTF-8"

def Entry.text : Entry → Except ReadFault (List Char)
  | .directory => .error .directory
  | .file octets =>
    match Utf8.decode? octets with
    | some text => .ok text
    | none => .error .malformed

/-- A tree of files.  The directories around an entry need no entry of their
own. -/
structure Files where
  entries : List (Place × Entry)
  deriving DecidableEq, Repr

namespace Files

def get? (f : Files) (p : Place) : Option Entry :=
  match f.entries.lookup p with
  | some e => some e
  | none =>
    if p = [] || f.entries.any fun (q, _) => p.isSuffixOf q then some .directory else none

/-- Whether there is anything at a place. -/
def contains (f : Files) (p : Place) : Bool :=
  (f.get? p).isSome

/-- Follows names from a place.  Two dots lead to the directory around a
directory. -/
def follow? (f : Files) : Place → List String → Option Place
  | p, [] => some p
  | p, name :: names =>
    if f.get? p = some .directory then
      if name = "" ∨ name = "." then f.follow? p names
      else if name = ".." then f.follow? p.tail names
      else if f.contains (name :: p) then f.follow? (name :: p) names
      else none
    else none

/-- The place that a path leads to from a directory, if there is anything. -/
def locate? (f : Files) (directory : Place) (path : String) : Option Place :=
  match path.toList with
  | [] => none
  | '/' :: _ => f.follow? [] (path.splitOn "/")
  | _ => f.follow? directory (path.splitOn "/")

/-- What a path leads to from a directory. -/
def find? (f : Files) (directory : Place) (path : String) : Option Entry :=
  (f.locate? directory path).bind f.get?

end Files
end LivePage
