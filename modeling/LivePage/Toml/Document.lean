import LivePage.Toml.Syntax

/-!
# Documents

The statements of a document, taken in order, build one table.  The entries
after a header belong to the table that it opened.

Reading documents is left to a library, for which these modules stand.  Nothing is
assumed of it but that it gives a table, or none where the document is malformed: all
that is done with a configuration file depends on that table only.
-/

namespace LivePage
namespace Toml

/-- A document under construction. -/
structure Draft where
  root : Entries
  /-- The path of the open table. -/
  path : List String

namespace Draft

def empty : Draft := ⟨[], []⟩

def add (d : Draft) : Statement → Option Draft
  | .table key =>
    (d.root.within (·.openTable key.name) key.above).map fun root =>
      ⟨root, key.above ++ [key.name]⟩
  | .element key =>
    (d.root.within (·.openElement key.name) key.above).map fun root =>
      ⟨root, key.above ++ [key.name]⟩
  | .entry key v => (d.root.within (·.put key v) d.path).map fun root => { d with root }

end Draft

def Table.ofStatements? (statements : List Statement) : Option Table :=
  (statements.foldlM Draft.add .empty).map fun d => Entries.toTable d.root

/-- The table that a document denotes. -/
def Table.ofText? (cs : List Char) : Option Table :=
  (statements? cs).bind Table.ofStatements?

end Toml
end LivePage
