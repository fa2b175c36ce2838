import LivePage.EventStream.Frame
import LivePage.LiveReload.Fault

/-!
# Event sources

An event source opens connections, one after another, and each connection
delivers frames until it fails or ends.  Reading can change the source too, as
where all connections of a source share the last event id.  No connection
delivers frames without end.

What is outside a client is such a source, a page that can be reloaded, and a
clock to wait by.  All three are one state here, so that a reload may matter to
what comes after it.
-/

namespace LivePage
namespace LiveReload

open EventStream

/-- Sources of type `σ` whose connections have type `κ`. -/
class EventSource (σ : Type) (κ : outParam Type) where
  /-- Tries to open a connection to an endpoint. -/
  connect : σ → String → Except Fault κ × σ
  /-- Asks a connection for its next frame. -/
  next : σ → κ → Pull Fault × κ × σ
  /-- Closes a connection.  Nothing is delivered after that. -/
  close : σ → κ → κ × σ
  /-- A bound on the number of frames that a connection has yet to deliver. -/
  backlog : κ → Nat
  /-- A bound on the number of connections that the source has yet to open. -/
  stock : σ → Nat
  backlog_lt : ∀ source connection frame,
    (next source connection).1 = .frame frame →
      backlog (next source connection).2.1 < backlog connection

/-- What is outside a client: a source, a page and a clock. -/
class Outside (σ : Type) (κ : outParam Type) extends EventSource σ κ where
  /-- Reloads the page. -/
  reload : σ → σ
  /-- Waits for a delay. -/
  sleep : σ → Duration → σ

/-- What is done to the outside on behalf of a client. -/
inductive Action where
  | connect (endpoint : String)
  | close
  | reload
  | sleep (delay : Duration)
  deriving DecidableEq, Repr

/-- The text of an action in a journal, where it is a call to a source or to the
page. -/
def Action.line? : Action → Option String
  | .connect endpoint => some ("connect " ++ endpoint)
  | .close => some "close"
  | .reload => some "reload"
  | .sleep _ => none

/-- The delay that an action waits for. -/
def Action.delay? : Action → Option Duration
  | .sleep delay => some delay
  | _ => none

/-- A source driven by hand, with at most one connection at a time. -/
structure Session (σ κ : Type) where
  source : σ
  connection : Option κ := none
  /-- The calls made so far. -/
  actions : List Action := []

namespace Session

variable {σ κ : Type} [EventSource σ κ]

/-- Tries to open a connection, which takes the place of the present one. -/
def connect (s : Session σ κ) (endpoint : String) : Except Fault Unit × Session σ κ :=
  let actions := s.actions ++ [.connect endpoint]
  match EventSource.connect s.source endpoint with
  | (.ok connection, source) => (.ok (), { source, connection := some connection, actions })
  | (.error fault, source) => (.error fault, { s with source, actions })

/-- Asks the present connection, if there is one, for its next frame. -/
def next (s : Session σ κ) : Option (Pull Fault) × Session σ κ :=
  match s.connection with
  | none => (none, s)
  | some connection =>
    let (pull, connection, source) := EventSource.next s.source connection
    (some pull, { s with source, connection := some connection })

/-- Closes the present connection, if there is one. -/
def close (s : Session σ κ) : Session σ κ :=
  match s.connection with
  | none => s
  | some connection =>
    let (connection, source) := EventSource.close s.source connection
    { source, connection := some connection, actions := s.actions ++ [.close] }

end Session
end LiveReload
end LivePage
