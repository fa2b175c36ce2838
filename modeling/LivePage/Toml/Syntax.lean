import LivePage.Toml.Scalar
import LivePage.Toml.Tree

/-!
# Statements of a document

A document is a sequence of statements, each on a line of its own: a header that
opens a table, a header that opens an element of an array of tables, or a key
with a value.  Arrays and inline tables may go over several lines and nest to a
limited depth, and a key has a limited number of parts.
-/

namespace LivePage
namespace Toml

/-- A statement of a document. -/
inductive Statement where
  | table (key : Key)
  | element (key : Key)
  | entry (key : Key) (value : Value)
  deriving Repr

/-! ## Keys -/

/-- Whether a character may stand in a key without quotes. -/
def isBareKeyChar (c : Char) : Bool :=
  c.isAlphanum || c = '_' || c = '-'

def readName? (cs : List Char) : Option (String × List Char) :=
  match cs with
  | '\x22' :: rest => (readBasic? rest).map fun (text, rest) => (String.ofList text, rest)
  | '\x27' :: rest => (readLiteral? rest).map fun (text, rest) => (String.ofList text, rest)
  | cs =>
    let name := cs.takeWhile isBareKeyChar
    if name.isEmpty then none else some (String.ofList name, cs.dropWhile isBareKeyChar)

/-- Reads the parts of a key, below those already read, up to the given number of
parts. -/
def readNames? : Nat → List String → List Char → Option (Key × List Char)
  | 0, _, _ => none
  | limit + 1, above, cs => do
    let (name, cs) ← readName? (skipBlanks cs)
    match skipBlanks cs with
    | '.' :: rest => readNames? limit (above ++ [name]) rest
    | rest => some (⟨above, name⟩, rest)

/-- The greatest number of parts in a key, and the depth to which arrays and inline
tables may nest. -/
def maxDepth : Nat := 80

/-- Reads a key, with the blanks around it. -/
def readKey? (cs : List Char) : Option (Key × List Char) :=
  readNames? maxDepth [] cs

/-! ## Values -/

abbrev ValueReader := List Char → Option (Value × List Char)

/-- Reads a key, an equals sign and a value.  What may stand around the equals sign
is skipped with `skip?`. -/
def readAssignment? (skip? : List Char → Option (List Char)) (readValue? : ValueReader)
    (cs : List Char) : Option ((Key × Value) × List Char) := do
  let (key, cs) ← readKey? cs
  match ← skip? cs with
  | '=' :: cs =>
    let (v, cs) ← readValue? (← skip? cs)
    some ((key, v), cs)
  | _ => none

/-- Reads items that commas separate, up to a closing bracket and at most the
given number of them.  A comma may follow the last one. -/
def readItems? {α : Type} (close : Char) (readItem? : List Char → Option (α × List Char)) :
    Nat → List Char → Option (List α × List Char)
  | 0, _ => none
  | limit + 1, cs => do
    let cs ← skipSpace false cs
    if cs.head? = some close then some ([], cs.tail)
    else
      let (item, cs) ← readItem? cs
      let cs ← skipSpace false cs
      match cs with
      | ',' :: cs =>
        let (items, cs) ← readItems? close readItem? limit cs
        some (item :: items, cs)
      | c :: cs => if c = close then some ([item], cs) else none
      | [] => none

/-- The table that the entries of an inline table make. -/
def inlineTable? (entries : List (Key × Value)) : Option Value :=
  (entries.foldlM (fun es (key, v) => Entries.put key v es) []).map fun es =>
    .table (Entries.toTable es)

/-- Reads a value in which arrays and inline tables nest at most to the given
depth. -/
def readValue? : Nat → ValueReader
  | depth + 1, '[' :: cs =>
    (readItems? ']' (readValue? depth) cs.length cs).map fun (items, cs) => (.array items, cs)
  | depth + 1, '\x7b' :: cs => do
    let readEntry? := readAssignment? (skipSpace false) (readValue? depth)
    let (entries, cs) ← readItems? '\x7d' readEntry? cs.length cs
    some (← inlineTable? entries, cs)
  | _, cs =>
    match readString? cs with
    | some (text, rest) => some (.string (String.ofList text), rest)
    | none => readWord? cs

/-! ## Statements -/

/-- Reads a header from its opening bracket on. -/
def readHeader? : List Char → Option (Statement × List Char)
  | '[' :: '[' :: cs => do
    let (key, cs) ← readKey? cs
    match cs with
    | ']' :: ']' :: cs => some (.element key, cs)
    | _ => none
  | '[' :: cs => do
    let (key, cs) ← readKey? cs
    match cs with
    | ']' :: cs => some (.table key, cs)
    | _ => none
  | _ => none

/-- Reads a statement up to the end of its line. -/
def readStatement? (cs : List Char) : Option (Statement × List Char) := do
  let (statement, cs) ←
    if cs.head? = some '[' then readHeader? cs
    else
      (readAssignment? (some ∘ skipBlanks) (readValue? maxDepth) cs).map fun ((key, v), cs) =>
        (.entry key v, cs)
  some (statement, ← skipLineEnd cs)

/-- Reads statements up to the end of a document, at most the given number of
them. -/
def readStatements? : Nat → List Char → Option (List Statement)
  | limit, cs => do
    match ← skipSpace false cs, limit with
    | [], _ => some []
    | _, 0 => none
    | cs, limit + 1 =>
      let (statement, cs) ← readStatement? cs
      (readStatements? limit cs).map (statement :: ·)

def statements? (cs : List Char) : Option (List Statement) :=
  match cs with
  | '\uFEFF' :: cs => readStatements? cs.length cs
  | cs => readStatements? cs.length cs

end Toml
end LivePage
