import LivePage.CommandLine.Switches
import LivePage.Config.Load

/-!
# Invocations

What the program is asked to do: follow the event stream of a docs server, print
the attributes of a page, or tell its version.
-/

namespace LivePage
namespace CommandLine

/-- How an event stream is followed. -/
structure ListenOptions where
  /-- The path of the configuration file. -/
  config : Option String := none
  overrides : Config.Overrides := {}
  /-- Whether the first rebuild is the last. -/
  once : Bool := false
  verbose : Bool := false
  /-- The words of the command that is run on every rebuild. -/
  command : List String := []
  deriving DecidableEq, Repr

/-- What the program is asked to do. -/
inductive Invocation where
  | version
  | listen (options : ListenOptions)
  /-- Print the attributes that the configuration file at a path sets. -/
  | attributes (config : Option String)
  deriving DecidableEq, Repr

/-- Reads a number after an optional sign. -/
def readSigned? : List Char → Option Int
  | '-' :: cs => if Digits.isNumeral cs then some (-(Digits.value cs : Int)) else none
  | '+' :: cs => if Digits.isNumeral cs then some (Digits.value cs) else none
  | cs => if Digits.isNumeral cs then some (Digits.value cs) else none

def readPort? (s : String) : Option UInt16 :=
  (readSigned? s.toList).bind fun n =>
    if 0 ≤ n ∧ n < 65536 then some (UInt16.ofNat n.toNat) else none

/-- Reads a value that may be left out. -/
def readIfGiven? {α : Type} (read? : String → Option α) : Option String → Option (Option α)
  | none => some none
  | some s => (read? s).map some

/-- Reads a path, which cannot be empty. -/
def readPath? (s : String) : Option String :=
  if s = "" then none else some s

/-- The switch for the path of the configuration file. -/
def configSwitch : Switch := { name := "config", letter := some 'c', takesValue := true }

/-- The switches for following an event stream. -/
def listenSwitches : List Switch := [
  configSwitch,
  { name := "host", takesValue := true },
  { name := "port", letter := some 'p', takesValue := true },
  { name := "endpoint", takesValue := true },
  { name := "once", takesValue := false },
  { name := "verbose", letter := some 'v', takesValue := false }]

/-- Reads a command line on which no switch may be given twice. -/
def readOnce? (known : List Switch) (words : List String) : Option Words :=
  (Words.of? known words).filter Words.isOnce

/-- Reads how an event stream is to be followed. -/
def ListenOptions.ofWords? (words : List String) : Option ListenOptions := do
  let w ← readOnce? listenSwitches words
  let config ← readIfGiven? readPath? (w.value? "config")
  let port ← readIfGiven? readPort? (w.value? "port")
  some {
    config
    overrides := { host := w.value? "host", port, endpoint := w.value? "endpoint" }
    once := w.has "once"
    verbose := w.has "verbose"
    command := w.others }

/-- Reads where the configuration of the attributes is. -/
def attributesConfig? (words : List String) : Option (Option String) := do
  let w ← readOnce? [configSwitch] words
  if w.others.isEmpty then readIfGiven? readPath? (w.value? "config") else none

/-- Whether a word asks for the version. -/
def isVersionWord (word : String) : Bool :=
  word = "--version" || ['-', 'V'].isPrefixOf word.toList

/-- Reads what the program is asked to do. -/
def Invocation.ofWords? : List String → Option Invocation
  | [] => none
  | word :: words =>
    if isVersionWord word then some .version
    else if word = "listen" then (ListenOptions.ofWords? words).map .listen
    else if word = "attributes" then (attributesConfig? words).map .attributes
    else none

end CommandLine
end LivePage
