import LivePage.Toml.Value

/-!
# Tables under construction

A document builds its tables piece by piece: headers open tables and elements of
arrays of tables, and dotted keys add entries to tables below the open one.  How
a table came to be decides which pieces may still add to it: a table is opened
by a header once at most, and not at all after a dotted key has added an entry to
it.
-/

namespace LivePage
namespace Toml

/-- How a table came to be. -/
inductive Origin where
  /-- By a header of its own. -/
  | header
  /-- On the way to the table of a longer header. -/
  | passage
  /-- By a dotted key, or on the way to the table of a longer header, after which
  a dotted key has added an entry to it. -/
  | dotted
  deriving DecidableEq, Repr

/-- A part of a document under construction. -/
inductive Node where
  /-- A finished value. -/
  | value (v : Value)
  | table (origin : Origin) (entries : List (String × Node))
  /-- An array of tables: the last one and those before it, nearest first. -/
  | tables (last : List (String × Node)) (earlier : List (List (String × Node)))

/-- The entries of a table under construction. -/
abbrev Entries := List (String × Node)

/-- A key and the tables above it. -/
structure Key where
  above : List String
  name : String
  deriving DecidableEq, Repr

namespace Entries

/-- Puts another node in the place of the one under a name. -/
def replace (name : String) (n : Node) : Entries → Entries
  | [] => []
  | (k, m) :: es => if k = name then (k, n) :: es else (k, m) :: replace name n es

/-- Adds a node under a name that is not taken. -/
def add (name : String) (n : Node) (es : Entries) : Entries :=
  es ++ [(name, n)]

/-- Changes the table at the end of a header's path.  An array of tables leads to
its last table. -/
def within (f : Entries → Option Entries) : List String → Entries → Option Entries
  | [], es => f es
  | k :: ks, es =>
    match es.lookup k with
    | none => (within f ks []).map fun inner => es.add k (.table .passage inner)
    | some (.table origin inner) =>
      (within f ks inner).map fun inner => es.replace k (.table origin inner)
    | some (.tables last earlier) =>
      (within f ks last).map fun last => es.replace k (.tables last earlier)
    | some (.value _) => none

/-- Opens a table that no header has opened before. -/
def openTable (name : String) (es : Entries) : Option Entries :=
  match es.lookup name with
  | none => some (es.add name (.table .header []))
  | some (.table .passage inner) => some (es.replace name (.table .header inner))
  | some _ => none

/-- Opens another table of an array of tables. -/
def openElement (name : String) (es : Entries) : Option Entries :=
  match es.lookup name with
  | none => some (es.add name (.tables [] []))
  | some (.tables last earlier) => some (es.replace name (.tables [] (last :: earlier)))
  | some _ => none

/-- Adds a value under a name that is not taken. -/
def define (name : String) (v : Value) (es : Entries) : Option Entries :=
  match es.lookup name with
  | none => some (es.add name (.value v))
  | some _ => none

/-- Adds a value under a dotted key to a table that is given with its origin. -/
def defineBelow (name : String) (v : Value) : Origin → List String → Entries → Option Entries
  | origin, [], es => if origin = .header then none else es.define name v
  | _, k :: ks, es =>
    match es.lookup k with
    | none =>
      (defineBelow name v .dotted ks []).map fun inner => es.add k (.table .dotted inner)
    | some (.table .header _) => none
    | some (.table origin inner) =>
      (defineBelow name v origin ks inner).map fun inner =>
        es.replace k (.table (if ks = [] then .dotted else origin) inner)
    | some (.tables last earlier) =>
      (defineBelow name v .header ks last).map fun last => es.replace k (.tables last earlier)
    | some (.value _) => none

/-- Adds a value under a key to the open table. -/
def put (key : Key) (v : Value) (es : Entries) : Option Entries :=
  match key.above with
  | [] => es.define key.name v
  | _ => es.defineBelow key.name v .header key.above

end Entries

mutual

def Node.toValue : Node → Value
  | .value v => v
  | .table _ entries => .table (Entries.toTable entries)
  | .tables last earlier => .array (Entries.toValues earlier [.table (Entries.toTable last)])

def Entries.toTable : List (String × Node) → Table
  | [] => []
  | (name, n) :: es => (name, n.toValue) :: Entries.toTable es

/-- The values of finished tables, nearest first, before other values. -/
def Entries.toValues : List (List (String × Node)) → List Value → List Value
  | [], after => after
  | es :: earlier, after => Entries.toValues earlier (.table (Entries.toTable es) :: after)

end

end Toml
end LivePage
