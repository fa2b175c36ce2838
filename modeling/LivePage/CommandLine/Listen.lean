import LivePage.CommandLine.Invocation
import LivePage.Http.EventSource
import LivePage.LiveReload.Run
import LivePage.Process.Execution

/-!
# Following an event stream

Each rebuild that the docs server announces counts as a reload of a page, for
which a navigator stands in: it tells of the rebuild and runs a command for it.
Following ends after the first rebuild, if that is asked for, or else when the
client gives up on the server.
-/

namespace LivePage
namespace CommandLine

open LiveReload

/-- Why a command of the program failed. -/
inductive Fault where
  | config (cause : Config.LoadFault)
  /-- The client gave up on the server. -/
  | gaveUp (url : String) (reloads failures : UInt32)
  /-- The rebuild command did not do what it should. -/
  | commandFailed (failures : UInt32)
  deriving DecidableEq, Repr

def Fault.text : Fault → String
  | .config cause => cause.text
  | .gaveUp url reloads failures =>
    "Live reload stopped after " ++ toString reloads.toNat ++ " reload(s), " ++
      toString failures.toNat ++ " failed command(s): cannot reach " ++ url
  | .commandFailed failures =>
    "Rebuild command failed " ++ toString failures.toNat ++ " time(s)"

/-- Writes a line to the error output. -/
def errorLine (text : String) : Transcript :=
  { errors := text ++ "\n" }

/-- How a command behaves at each of the rebuilds, which are counted from one. -/
abbrev Runner := Nat → List String → Execution

/-! ## Rebuilds -/

/-- What came of rebuilds, counted in 32 bits. -/
structure Rebuilds where
  count : UInt32 := 0
  /-- How many of them had a command that did not do what it should. -/
  failures : UInt32 := 0
  transcript : Transcript := {}
  deriving DecidableEq, Repr

namespace Rebuilds

/-- Another rebuild, at which commands behave as `run` says. -/
def next (run : List String → Execution) (command : List String) (r : Rebuilds) : Rebuilds :=
  let count := r.count + 1
  let told := r.transcript ++ errorLine ("Rebuild #" ++ toString count.toNat ++ " received")
  match command with
  | [] => { r with count, transcript := told }
  | program :: _ =>
    let execution := run command
    let done := told ++ execution.transcript
    if execution.ending.isSuccess then { r with count, transcript := done }
    else
      { count
        failures := r.failures + 1
        transcript := done ++ errorLine (execution.ending.failureText program) }

end Rebuilds

/-- What stands in for the page: a command, which is run at each reload. -/
structure Navigator where
  run : Runner
  command : List String
  /-- The reloads so far. -/
  number : Nat := 0
  rebuilds : Rebuilds := {}

/-- Runs the command for another rebuild. -/
def Navigator.reload (n : Navigator) : Navigator :=
  { n with
    number := n.number + 1
    rebuilds := n.rebuilds.next (n.run (n.number + 1)) n.command }

/-- A source that is followed, with a navigator in place of its page. -/
structure Followed (σ : Type) where
  source : σ
  navigator : Navigator

instance {σ κ : Type} [Outside σ κ] : Outside (Followed σ) κ where
  connect f endpoint :=
    let (result, source) := EventSource.connect f.source endpoint
    (result, { f with source })
  next f connection :=
    let (pull, connection, source) := EventSource.next f.source connection
    (pull, connection, { f with source })
  close f connection :=
    let (connection, source) := EventSource.close f.source connection
    (connection, { f with source })
  backlog connection := EventSource.backlog σ connection
  stock f := EventSource.stock f.source
  backlog_lt f connection frame h := EventSource.backlog_lt f.source connection frame h
  reload f := ⟨Outside.reload f.source, f.navigator.reload⟩
  sleep f delay := { f with source := Outside.sleep f.source delay }

/-! ## The command -/

/-- What following comes to. -/
def verdict (url : String) (outcome : Outcome) (reloads failures : UInt32) :
    Except Fault Unit :=
  match outcome with
  | .gaveUp => .error (.gaveUp url reloads failures)
  | .reloaded => if failures = 0 then .ok () else .error (.commandFailed failures)

/-- What a visit comes to, of which the navigator has counted the failures. -/
def visitResult {σ : Type} (url : String) (visit : Visit (Followed σ)) : Except Fault Unit :=
  verdict url visit.outcome visit.reloads visit.source.navigator.rebuilds.failures

/-- What is told before following. -/
def banner (l : Config.Loaded) (command : List String) : Transcript :=
  let lines := ["Listening for rebuilds on " ++ l.config.streamUrl] ++
    (l.path.toList.map fun path => "Config: " ++ path) ++
    (if command.isEmpty then [] else ["On rebuild: " ++ " ".intercalate command])
  lines.foldl (fun t line => t ++ errorLine line) {}

/-- What a command of the program comes to. -/
structure Report where
  result : Except Fault Unit
  transcript : Transcript := {}
  /-- The server after it all. -/
  server : Http.Server

/-- Follows the event stream of a configuration, if that ends. -/
def follow? (run : Runner) (server : Http.Server) (l : Config.Loaded) (o : ListenOptions) :
    Option Report :=
  let source := Http.Source.new l.config.serverUrl.toList server
  let followed : Followed Http.Source := ⟨source, { run, command := o.command }⟩
  (Visit.of? l.config.liveReload o.once followed).map fun visit =>
    { result := visitResult l.config.streamUrl visit
      transcript := banner l o.command ++ visit.source.navigator.rebuilds.transcript
      server := visit.source.source.server }

/-- Follows the event stream of a docs server, if that ends. -/
def listen? (s : Config.Surroundings) (run : Runner) (server : Http.Server)
    (o : ListenOptions) : Option Report :=
  match s.load o.config o.overrides with
  | .error cause => some { result := .error (.config cause), server }
  | .ok l => follow? run server l o

end CommandLine
end LivePage
