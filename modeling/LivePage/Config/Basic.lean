import LivePage.Page.Options

/-!
# Configurations

A site sets up its docs server, the sidebar of its pages and their live-reload
client in one configuration.  It says which of its values are acceptable, and
which attributes hand them on to a page.
-/

namespace LivePage

/-- How a dropped connection is answered, with delays in milliseconds. -/
inductive Reconnect where
  | never
  | fixed (delay : UInt64) (maxAttempts : Option UInt32)
  | backoff (initial greatest : UInt64) (factor : Binary64) (maxAttempts : Option UInt32)
  deriving DecidableEq, Repr

namespace Reconnect

/-- The delay before a reconnection where none is set. -/
def defaultDelay : UInt64 := 3000

/-- The first delay of a backoff where none is set. -/
def defaultInitial : UInt64 := 500

/-- The greatest delay of a backoff where none is set. -/
def defaultGreatest : UInt64 := 10000

/-- The factor of a backoff where none is set. -/
def defaultFactor : Binary64 := 2

/-- The answer where none is set. -/
def standard : Reconnect := .fixed defaultDelay none

def toPolicy : Reconnect → LiveReload.ReconnectPolicy
  | .never => .never
  | .fixed delay maxAttempts => .fixed (.ofMillis delay) maxAttempts
  | .backoff initial greatest factor maxAttempts =>
    .backoff (.ofMillis initial) (.ofMillis greatest) factor maxAttempts

theorem toPolicy_standard : standard.toPolicy = .standard := rfl

end Reconnect

/-- Where the docs server of a site is found. -/
structure DocsServer where
  host : String := "127.0.0.1"
  port : UInt16 := 3000
  deriving DecidableEq, Repr

/-- What a live-reload client follows, and how. -/
structure StreamOptions where
  endpoint : String := LiveReload.defaultEndpoint
  reconnect : Reconnect := .standard
  deriving DecidableEq, Repr

/-- The configuration of a site. -/
structure Config where
  server : DocsServer := {}
  sidebar : Page.SidebarOptions := {}
  stream : StreamOptions := {}
  deriving DecidableEq, Repr

namespace Config

def serverUrl (c : Config) : String :=
  "http://" ++ c.server.host ++ ":" ++ toString c.server.port.toNat

def streamUrl (c : Config) : String :=
  c.serverUrl ++ c.stream.endpoint

/-- What a live-reload client is set to do. -/
def liveReload (c : Config) : LiveReload.Options where
  endpoint := c.stream.endpoint
  reconnect := c.stream.reconnect.toPolicy

def flagText (b : Bool) : String :=
  if b then "true" else "false"

/-- The attributes of the root of a page that hand the configuration on to it. -/
def attributes (c : Config) : List (String × String) :=
  [(Page.Options.widthAttribute, String.ofList c.sidebar.width.text),
    (Page.Options.clampAttribute, flagText c.sidebar.clampToViewport),
    (Page.Options.endpointAttribute, c.stream.endpoint)]

/-- Why a configuration is not acceptable. -/
inductive Objection where
  | emptyHost
  | zeroPort
  | badWidth
  | emptyEndpoint
  | relativeEndpoint
  | badFactor
  | initialAboveGreatest
  deriving DecidableEq, Repr

def Objection.text : Objection → String
  | .emptyHost => "server.host cannot be empty"
  | .zeroPort => "server.port cannot be 0"
  | .badWidth => "sidebar.default_width must be greater than 0"
  | .emptyEndpoint => "live_reload.endpoint cannot be empty"
  | .relativeEndpoint => "live_reload.endpoint must start with /"
  | .badFactor => "live_reload.reconnect.factor must be at least 1"
  | .initialAboveGreatest => "live_reload.reconnect.initial_ms cannot exceed max_ms"

/-- Whether a factor is a number of at least one. -/
def isFactor (x : Binary64) : Bool :=
  x.isFinite && Binary64.le 1 x

/-- Whether a text begins with a slash. -/
def isAbsolute (s : String) : Bool :=
  s.toList.head? = some '/'

/-- What can be wrong with a docs server, in the order of the checks. -/
def serverChecks (s : DocsServer) : List (Bool × Objection) :=
  [(s.host = "", .emptyHost), (s.port = 0, .zeroPort)]

/-- What can be wrong with a sidebar. -/
def sidebarChecks (s : Page.SidebarOptions) : List (Bool × Objection) :=
  [(!Page.Options.isWidth s.width, .badWidth)]

/-- What can be wrong with an answer to dropped connections, in the order of the
checks. -/
def reconnectChecks : Reconnect → List (Bool × Objection)
  | .backoff initial greatest factor _ =>
    [(!isFactor factor, .badFactor), (greatest < initial, .initialAboveGreatest)]
  | _ => []

/-- What can be wrong with a stream, in the order of the checks. -/
def streamChecks (s : StreamOptions) : List (Bool × Objection) :=
  (s.endpoint = "", .emptyEndpoint) :: (!isAbsolute s.endpoint, .relativeEndpoint) ::
    reconnectChecks s.reconnect

/-- What can be wrong with a configuration, in the order of the checks. -/
def checks (c : Config) : List (Bool × Objection) :=
  serverChecks c.server ++ sidebarChecks c.sidebar ++ streamChecks c.stream

def objection? (c : Config) : Option Objection :=
  (c.checks.find? (·.1)).map (·.2)

end Config
end LivePage
