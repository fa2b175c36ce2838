import LivePage.Config.Basic
import LivePage.Toml.Value

/-!
# Configurations in TOML

A configuration is a table of three sections.  What a section does not set keeps
its default, and what no section asks for is ignored, as long as its numbers are
in range.  A section may also be written as an array of its fields in order.
-/

namespace LivePage
namespace Config

open Toml (Value Table)

/-! ## Values of a kind -/

def readText? : Value → Option String
  | .string s => some s
  | _ => none

def readFlag? : Value → Option Bool
  | .boolean b => some b
  | _ => none

def readNat? (bound : Nat) : Value → Option Nat
  | .integer n => if 0 ≤ n ∧ n < bound then some n.toNat else none
  | _ => none

def readWord16? (v : Value) : Option UInt16 :=
  (readNat? UInt16.size v).map UInt16.ofNat

def readWord32? (v : Value) : Option UInt32 :=
  (readNat? UInt32.size v).map UInt32.ofNat

def readWord64? (v : Value) : Option UInt64 :=
  (readNat? UInt64.size v).map UInt64.ofNat

/-- A float, or the one nearest to an integer of 64 bits. -/
def readNumber? : Value → Option Binary64
  | .float x => some x
  | .integer n =>
    if (Value.integer n).fitsWord64 then some (.ofRatio (n < 0) n.natAbs 1) else none
  | _ => none

/-! ## Sections -/

/-- What a section sets. -/
abbrev Fields := String → Option Value

/-- The fields in a list of them. -/
def fieldsIn (entries : List (String × Value)) : Fields :=
  fun name => entries.lookup name

/-- The fields of a section, whose names are given in order.  A date sets
nothing, and what is left of an array after its fields is not looked at. -/
def fields? (names : List String) : Value → Option Fields
  | .table entries => if (Value.table entries).fitsWord128 then some (fieldsIn entries) else none
  | .array items => some (fieldsIn (names.zip items))
  | .dateTime _ => some fun _ => none
  | _ => none

/-- Reads a field that may be left out. -/
def readField? {α : Type} (fields : Fields) (name : String) (read? : Value → Option α)
    (default : α) : Option α :=
  match fields name with
  | none => some default
  | some v => read? v

/-- Reads a limit that may be left out. -/
def readLimit? (fields : Fields) : Option (Option UInt32) :=
  readField? fields "max_attempts" (fun v => (readWord32? v).map some) none

/-- The fields of an answer to dropped connections, without the name of its
kind. -/
def reconnectFields (kind : String) : List String :=
  if kind = "fixed" then ["delay_ms", "max_attempts"]
  else if kind = "backoff" then ["initial_ms", "max_ms", "factor", "max_attempts"]
  else []

/-- The name of the kind of an answer to dropped connections, and its other
fields.  An array begins with the kind and has no field too many. -/
def reconnectParts? : Value → Option (String × Fields)
  | .table entries =>
    (entries.lookup "policy").bind fun v => (readText? v).map (·, fieldsIn entries)
  | .array (v :: items) => do
    let kind ← readText? v
    let names := reconnectFields kind
    if items.length ≤ names.length then some (kind, fieldsIn (names.zip items)) else none
  | _ => none

def readReconnect? (v : Value) : Option Reconnect := do
  let (kind, fields) ← if v.fitsWord64 then reconnectParts? v else none
  match kind with
  | "none" => some .never
  | "fixed" =>
    let delay ← readField? fields "delay_ms" readWord64? Reconnect.defaultDelay
    some (.fixed delay (← readLimit? fields))
  | "backoff" =>
    let initial ← readField? fields "initial_ms" readWord64? Reconnect.defaultInitial
    let greatest ← readField? fields "max_ms" readWord64? Reconnect.defaultGreatest
    let factor ← readField? fields "factor" readNumber? Reconnect.defaultFactor
    some (.backoff initial greatest factor (← readLimit? fields))
  | _ => none

/-- Reads where the docs server is found. -/
def readServer? (v : Value) : Option DocsServer := do
  let fields ← fields? ["host", "port"] v
  let host ← readField? fields "host" readText? ({} : DocsServer).host
  let port ← readField? fields "port" readWord16? ({} : DocsServer).port
  some { host, port }

/-- Reads what the sidebar is set to do. -/
def readSidebar? (v : Value) : Option Page.SidebarOptions := do
  let fields ← fields? ["default_width", "clamp_to_viewport"] v
  let width ← readField? fields "default_width" readNumber? Page.defaultWidth
  let clampToViewport ← readField? fields "clamp_to_viewport" readFlag? false
  some { width, clampToViewport }

def readStream? (v : Value) : Option StreamOptions := do
  let fields ← fields? ["endpoint", "reconnect"] v
  let endpoint ← readField? fields "endpoint" readText? ({} : StreamOptions).endpoint
  let reconnect ← readField? fields "reconnect" readReconnect? .standard
  some { endpoint, reconnect }

def sectionNames : List String := ["server", "sidebar", "live_reload"]

def ofTable? (t : Table) : Option Config := do
  let server ← readField? (fieldsIn t) "server" readServer? {}
  let sidebar ← readField? (fieldsIn t) "sidebar" readSidebar? {}
  let stream ← readField? (fieldsIn t) "live_reload" readStream? {}
  if t.all fun (name, v) => sectionNames.contains name || v.fitsWord128 then
    some { server, sidebar, stream }
  else none

end Config
end LivePage
