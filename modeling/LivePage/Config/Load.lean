import LivePage.Config.Files
import LivePage.Config.Reading
import LivePage.Config.Reference
import LivePage.Toml.Document

/-!
# Loading a configuration

A configuration is read from a given file, or else from the nearest one around
the working directory, or else is the default one.  Its host and its endpoint may
refer to variables.  Settings from the command line come before those of the
file, and the outcome must be acceptable.
-/

namespace LivePage
namespace Config

/-- The name of a configuration file that is looked for. -/
def fileName : String := "dz.toml"

/-- Why no configuration was loaded. -/
inductive LoadFault where
  | notFound (path : String)
  | unreadable (cause : ReadFault)
  | malformed
  | objection (o : Objection)
  /-- A setting refers to a variable that is missing. -/
  | missingVariable (setting name : String)
  deriving DecidableEq, Repr

def LoadFault.text : LoadFault → String
  | .notFound path => "Configuration file not found: " ++ path
  | .unreadable cause => "I/O error: " ++ cause.text
  | .malformed => "TOML parse error: malformed configuration"
  | .objection o => "Configuration error: " ++ o.text
  | .missingVariable setting name =>
    "Environment variable error in " ++ setting ++ ": $\x7b" ++ name ++ "\x7d not set"

/-- Settings from the command line. -/
structure Overrides where
  host : Option String := none
  port : Option UInt16 := none
  endpoint : Option String := none
  deriving DecidableEq, Repr

/-- Puts settings from the command line before those of a configuration. -/
def override (c : Config) (o : Overrides) : Config :=
  { c with
    server := { host := o.host.getD c.server.host, port := o.port.getD c.server.port }
    stream := { c.stream with endpoint := o.endpoint.getD c.stream.endpoint } }

/-- The variables that a configuration refers to. -/
def references (c : Config) : List String :=
  (Reference.names c.server.host.toList ++ Reference.names c.stream.endpoint.toList).map
    String.ofList

/-- Puts in what a setting refers to. -/
def expandSetting (e : Environment) (setting value : String) : Except LoadFault String :=
  match Reference.expand e value.toList with
  | .ok cs => .ok (String.ofList cs)
  | .error name => .error (.missingVariable setting (String.ofList name))

/-- Puts in what a configuration refers to. -/
def expand (c : Config) (e : Environment) : Except LoadFault Config := do
  let host ← expandSetting e "server.host" c.server.host
  let endpoint ← expandSetting e "live_reload.endpoint" c.stream.endpoint
  return { c with
    server := { c.server with host }
    stream := { c.stream with endpoint } }

/-- Reads a configuration as it is written. -/
def ofToml? (cs : List Char) : Option Config :=
  (Toml.Table.ofText? cs).bind ofTable?

/-- Reads a configuration from the text of a file. -/
def ofText (e : Environment) (cs : List Char) : Except LoadFault Config :=
  match ofToml? cs with
  | none => .error .malformed
  | some c => c.expand e

/-- The nearest configuration file in a directory and those around it. -/
def discover? (isPresent : Place → Bool) : Place → Option Place
  | [] => if isPresent [fileName] then some [fileName] else none
  | name :: around =>
    if isPresent (fileName :: name :: around) then some (fileName :: name :: around)
    else discover? isPresent around

/-- A configuration and the path of the file that it was read from. -/
structure Loaded where
  config : Config
  path : Option String
  deriving DecidableEq, Repr

/-- Where a program looks for its configuration. -/
structure Surroundings where
  /-- What a path leads to. -/
  find? : String → Option Entry
  /-- The working directory. -/
  directory : Place
  environment : Environment

namespace Surroundings

/-- The paths that may be looked at. -/
def candidates (directory : Place) (given : Option String) : List String :=
  match given with
  | some path => [path]
  | none => directory.around.map fun p => Place.path (fileName :: p)

/-- Whether there is anything at a place. -/
def has (s : Surroundings) (p : Place) : Bool :=
  (s.find? p.path).isSome

/-- Reads the configuration file at a path. -/
def readPath (s : Surroundings) (path : String) : Except LoadFault Loaded :=
  match s.find? path with
  | none => .error (.notFound path)
  | some e =>
    match e.text with
    | .error cause => .error (.unreadable cause)
    | .ok cs => (ofText s.environment cs).map fun config => ⟨config, some path⟩

/-- Reads the configuration file that is given or found. -/
def readFile (s : Surroundings) (given : Option String) : Except LoadFault Loaded :=
  match given with
  | some path => s.readPath path
  | none =>
    match discover? s.has s.directory with
    | none => .ok ⟨{}, none⟩
    | some p => s.readPath p.path

/-- Refuses a configuration that is not acceptable. -/
def accept (l : Loaded) : Except LoadFault Loaded :=
  match l.config.objection? with
  | none => .ok l
  | some o => .error (.objection o)

/-- Loads a configuration. -/
def load (s : Surroundings) (given : Option String) (o : Overrides) : Except LoadFault Loaded :=
  (s.readFile given).bind fun l => accept { l with config := l.config.override o }

end Surroundings
end Config
end LivePage
