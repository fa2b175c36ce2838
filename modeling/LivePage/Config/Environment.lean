import LivePage.Text.Utf8

/-!
# Environments

The variables that a program is started with.  Each is an entry of octets: its name, an equals
sign and what it is set to, which need not be text.  A variable is looked for by the front of its
entry, so one that is asked for by a name with an equals sign in it may be found too.
-/

namespace LivePage

/-- The variables that are set, each with its octets. -/
structure Environment where
  bindings : List (String × List UInt8)
  deriving DecidableEq, Repr

namespace Environment

def entry (name : List Char) (octets : List UInt8) : List UInt8 :=
  Utf8.encode (name ++ ['=']) ++ octets

/-- The octets that a variable is set to.  No variable is set whose name is empty or holds
NUL. -/
def octets? (e : Environment) (name : List Char) : Option (List UInt8) :=
  if name = [] ∨ '\x00' ∈ name then none
  else
    let entries := e.bindings.map fun (name, octets) => entry name.toList octets
    (entries.find? (entry name []).isPrefixOf).map (·.drop (entry name []).length)

/-- The text of a variable.  There is none if the variable is not set, and none if it is set to
octets that are no text. -/
def value? (e : Environment) (name : List Char) : Option (List Char) :=
  (e.octets? name).bind Utf8.decode?

end Environment
end LivePage
