import LivePage.CommandLine.Listen

/-!
# Printing attributes

The attributes of the root of a page, as they are written in a start tag.
-/

namespace LivePage
namespace CommandLine

/-- Puts a text in the place of each occurrence of a character. -/
def replaceChar (c : Char) (text : List Char) (cs : List Char) : List Char :=
  cs.flatMap fun d => if d = c then text else [d]

/-- An attribute value without the characters that would end it or begin a
reference. -/
def escape (value : List Char) : List Char :=
  replaceChar '<' "&lt;".toList
    (replaceChar '\x22' "&quot;".toList (replaceChar '&' "&amp;".toList value))

def attributeText (a : String × String) : List Char :=
  a.1.toList ++ ['=', '\x22'] ++ escape a.2.toList ++ ['\x22']

/-- The attributes in a start tag, with spaces between them. -/
def attributesText (as : List (String × String)) : List Char :=
  List.intercalate [' '] (as.map attributeText)

/-- A value with the characters that references stand for. -/
def unescape : List Char → List Char
  | '&' :: 'a' :: 'm' :: 'p' :: ';' :: cs => '&' :: unescape cs
  | '&' :: 'q' :: 'u' :: 'o' :: 't' :: ';' :: cs => '\x22' :: unescape cs
  | '&' :: 'l' :: 't' :: ';' :: cs => '<' :: unescape cs
  | c :: cs => c :: unescape cs
  | [] => []

/-- Reads one attribute: it and what is left after its closing quote. -/
def readAttribute? (cs : List Char) : Option ((String × String) × List Char) :=
  match cs.dropWhile (· ≠ '=') with
  | '=' :: '\x22' :: after =>
    match after.dropWhile (· ≠ '\x22') with
    | [] => none
    | _ :: rest =>
      some ((String.ofList (cs.takeWhile (· ≠ '=')),
        String.ofList (unescape (after.takeWhile (· ≠ '\x22')))), rest)
  | _ => none

theorem length_lt_of_readAttribute? {cs rest : List Char} {a : String × String}
    (h : readAttribute? cs = some (a, rest)) : rest.length < cs.length := by
  unfold readAttribute? at h
  split at h
  · rename_i after hcs
    split at h
    · simp at h
    · rename_i c rest' hafter
      have h₁ := (List.dropWhile_suffix (p := (· ≠ '=')) (l := cs)).length_le
      have h₂ := (List.dropWhile_suffix (p := (· ≠ '\x22')) (l := after)).length_le
      rw [hcs] at h₁
      rw [hafter] at h₂
      simp only [Option.some.injEq, Prod.mk.injEq] at h
      simp only [List.length_cons] at h₁ h₂
      rw [← h.2]
      omega
  · simp at h

/-- Reads one or more attributes with spaces between them. -/
def readSomeAttributes? (cs : List Char) : Option (List (String × String)) :=
  match _h : readAttribute? cs with
  | none => none
  | some (a, []) => some [a]
  | some (a, c :: rest) =>
    if c = ' ' then (readSomeAttributes? rest).map (a :: ·) else none
termination_by cs.length
decreasing_by
  have := length_lt_of_readAttribute? _h
  simp only [List.length_cons] at this
  omega

/-- Reads attributes as they are written in a start tag. -/
def readAttributes? (cs : List Char) : Option (List (String × String)) :=
  if cs = [] then some [] else readSomeAttributes? cs

/-- Prints the attributes that a configuration sets. -/
def attributes (s : Config.Surroundings) (server : Http.Server) (config : Option String) :
    Report :=
  match s.load config {} with
  | .error cause => { result := .error (.config cause), server }
  | .ok l =>
    { result := .ok ()
      transcript := { output := String.ofList (attributesText l.config.attributes) ++ "\n" }
      server }

end CommandLine
end LivePage
