import LivePage.EventStream.Frame
import LivePage.LiveReload.Fault
import LivePage.LiveReload.Policy

/-!
# The live-reload client

A client is told what happens to its connection and answers with what to do
next.  The first plain message closes it and asks for one reload of the page;
named messages are ignored.  A fault is answered as the reconnection policy
says.  A closed client asks for nothing more.
-/

namespace LivePage
namespace LiveReload

open EventStream

/-- Where a client stands. -/
inductive Phase where
  | connecting
  | connected
  | closed
  deriving DecidableEq, Repr

/-- What a client asks for. -/
inductive Command where
  | nothing
  | closeAndReload
  /-- Open another connection after a delay. -/
  | reconnect (delay : Duration)
  | giveUp
  deriving DecidableEq, Repr

def defaultEndpoint : String := "/ss-events"

/-- What a client is set to do. -/
structure Options where
  endpoint : String := defaultEndpoint
  reconnect : ReconnectPolicy := .standard
  deriving DecidableEq, Repr

/-- A live-reload client. -/
structure Client where
  options : Options
  phase : Phase
  /-- The retryable faults since a connection was last established. -/
  attempts : UInt32
  /-- The delay that the server asked for last. -/
  serverRetry : Option Duration
  /-- The reloads asked for. -/
  reloads : UInt32
  deriving DecidableEq, Repr

namespace Client

/-- A client that has yet to open its first connection. -/
def new (options : Options) : Client where
  options := options
  phase := .connecting
  attempts := 0
  serverRetry := none
  reloads := 0

/-- The connection is established. -/
def onOpen (c : Client) : Client :=
  match c.phase with
  | .connecting => { c with phase := .connected, attempts := 0 }
  | _ => c

def onMessage (c : Client) (m : Message) : Command × Client :=
  if c.phase = .closed ∨ ¬ m.isPlain then (.nothing, c)
  else (.closeAndReload, { c with phase := .closed, reloads := c.reloads + 1 })

/-- The server asked for a delay before reconnections. -/
def onRetry (c : Client) (delay : Duration) : Client :=
  { c with serverRetry := some delay }

def onFault (c : Client) (fault : Fault) : Command × Client :=
  if c.phase = .closed then (.nothing, c)
  else if fault.isRetryable then
    let attempts := c.attempts + 1
    match c.options.reconnect.delay? attempts c.serverRetry with
    | some delay => (.reconnect delay, { c with phase := .connecting, attempts })
    | none => (.giveUp, { c with phase := .closed, attempts })
  else (.giveUp, { c with phase := .closed })

end Client

/-- What can happen to a client. -/
inductive Event where
  | opened
  | message (m : Message)
  | retry (delay : Duration)
  | fault (f : Fault)
  deriving DecidableEq, Repr

namespace Client

/-- Tells a client what happened. -/
def on (c : Client) : Event → Command × Client
  | .opened => (.nothing, c.onOpen)
  | .message m => c.onMessage m
  | .retry delay => (.nothing, c.onRetry delay)
  | .fault f => c.onFault f

/-- Tells a client everything that happened, in order. -/
def onAll (c : Client) : List Event → Client
  | [] => c
  | e :: es => (c.on e).2.onAll es

/-- The commands that answer everything that happened, in order. -/
def commands (c : Client) : List Event → List Command
  | [] => []
  | e :: es => (c.on e).1 :: (c.on e).2.commands es

end Client
end LiveReload
end LivePage
