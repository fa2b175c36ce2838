import LivePage.LiveReload.Client
import LivePage.LiveReload.Source

/-!
# Runs of a client

A run opens connections on behalf of a client, tells it every frame and fault,
and does what it asks for, until the page is reloaded or the client gives up.
Each connection that was opened is closed before anything else is done.  A run
may last forever, so it is given the number of connections it may try.
-/

namespace LivePage
namespace LiveReload

open EventStream

variable {σ κ : Type} [Outside σ κ]

/-- How a run ended. -/
inductive Outcome where
  | reloaded
  | gaveUp
  deriving DecidableEq, Repr

/-- Why a connection is no longer read. -/
inductive Reading where
  | reload
  | fault (f : Fault)
  deriving DecidableEq, Repr

/-- Reads a connection until the client asks for a reload or the connection
fails or ends. -/
def readConnection (client : Client) (source : σ) (connection : κ) :
    Reading × Client × κ × σ :=
  match _h : EventSource.next source connection with
  | (.frame (.message m), connection', source') =>
    match client.onMessage m with
    | (.closeAndReload, client) => (.reload, client, connection', source')
    | (_, client) => readConnection client source' connection'
  | (.frame (.retry delay), connection', source') =>
    readConnection (client.onRetry delay) source' connection'
  | (.failed fault, connection', source') => (.fault fault, client, connection', source')
  | (.finished, connection', source') => (.fault .endOfStream, client, connection', source')
termination_by EventSource.backlog σ connection
decreasing_by
  · have := EventSource.backlog_lt source connection (.message m) (by rw [_h])
    rwa [_h] at this
  · have := EventSource.backlog_lt source connection (.retry delay) (by rw [_h])
    rwa [_h] at this

/-- One connection and what followed from it. -/
structure Round (σ : Type) where
  /-- How the run ended, if it did. -/
  outcome : Option Outcome
  actions : List Action
  client : Client
  source : σ

/-- Tells the client about a fault and does what it asks for. -/
def answerFault (actions : List Action) (fault : Fault) (client : Client) (source : σ) :
    Round σ :=
  match client.onFault fault with
  | (.reconnect delay, client) =>
    ⟨none, actions ++ [.sleep delay], client, Outside.sleep source delay⟩
  | (_, client) => ⟨some .gaveUp, actions, client, source⟩

/-- Tries one connection.  One that is accepted is closed when it is no longer read. -/
def playRound (client : Client) (source : σ) : Round σ :=
  let endpoint := client.options.endpoint
  match EventSource.connect source endpoint with
  | (.error fault, source) => answerFault [.connect endpoint] fault client source
  | (.ok connection, source) =>
    match readConnection client.onOpen source connection with
    | (.reload, client, connection, source) =>
      let (_, source) := EventSource.close source connection
      ⟨some .reloaded, [.connect endpoint, .close, .reload], client, Outside.reload source⟩
    | (.fault fault, client, connection, source) =>
      let (_, source) := EventSource.close source connection
      answerFault [.connect endpoint, .close] fault client source

/-- A run that has ended. -/
structure Run (σ : Type) where
  outcome : Outcome
  actions : List Action
  client : Client
  source : σ

namespace Run

/-- The delays that a run waited for. -/
def sleeps (r : Run σ) : List Duration :=
  r.actions.filterMap Action.delay?

/-- Runs a client over a source, if the run ends within the given number of
connections. -/
def within? : Nat → Client → σ → Option (Run σ)
  | 0, _, _ => none
  | limit + 1, client, source =>
    match playRound client source with
    | ⟨some outcome, actions, client, source⟩ => some ⟨outcome, actions, client, source⟩
    | ⟨none, actions, client, source⟩ =>
      (within? limit client source).map fun run => { run with actions := actions ++ run.actions }

/-- The number of connections after which a client that a source refuses from
now on has given up, counted with those that the source has yet to open. -/
def budget (options : Options) (source : σ) : Nat :=
  EventSource.stock source + (options.reconnect.limit?.getD 0).toNat + 1

/-- Runs a client over a source, if the run ends. -/
def of? (client : Client) (source : σ) : Option (Run σ) :=
  within? (budget client.options source) client source

end Run

/-- Page loads that followed one another. -/
structure Visit (σ : Type) where
  /-- The reloads that led from one page load to the next, counted in 32 bits. -/
  reloads : UInt32
  /-- How the last run ended. -/
  outcome : Outcome
  actions : List Action
  source : σ

namespace Visit

/-- Runs one new client after another over a source, up to the first reload if
`once` is set, or else until one gives up, if that happens within the given
number of page loads. -/
def within? (options : Options) (once : Bool) : Nat → σ → Option (Visit σ)
  | 0, _ => none
  | limit + 1, source =>
    match Run.of? (.new options) source with
    | none => none
    | some ⟨.gaveUp, actions, _, source⟩ => some ⟨0, .gaveUp, actions, source⟩
    | some ⟨.reloaded, actions, _, source⟩ =>
      if once then some ⟨1, .reloaded, actions, source⟩
      else
        (within? options once limit source).map fun visit =>
          { visit with reloads := visit.reloads + 1, actions := actions ++ visit.actions }

/-- Runs one new client after another over a source, if that ends. -/
def of? (options : Options) (once : Bool) (source : σ) : Option (Visit σ) :=
  within? options once (EventSource.stock source + 1) source

end Visit
end LiveReload
end LivePage
