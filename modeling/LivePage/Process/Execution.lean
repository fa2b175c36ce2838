/-!
# Executions

What running a command comes to: what it writes, and how it ends.
-/

namespace LivePage

/-- What is written to the two outputs of a program. -/
structure Transcript where
  output : String := ""
  errors : String := ""
  deriving DecidableEq, Repr

instance : Append Transcript where
  append a b := ⟨a.output ++ b.output, a.errors ++ b.errors⟩

/-- How a command ends. -/
inductive Ending where
  | exited (code : UInt8)
  | signalled (number : Nat)
  /-- There is no such program. -/
  | notFound
  deriving DecidableEq, Repr

namespace Ending

/-- Whether a command did what it should. -/
def isSuccess (e : Ending) : Bool :=
  e = .exited 0

def signalNames : List (Nat × String) := [
  (1, "SIGHUP"), (2, "SIGINT"), (3, "SIGQUIT"), (4, "SIGILL"), (5, "SIGTRAP"), (6, "SIGABRT"),
  (7, "SIGBUS"), (8, "SIGFPE"), (9, "SIGKILL"), (10, "SIGUSR1"), (11, "SIGSEGV"),
  (12, "SIGUSR2"), (13, "SIGPIPE"), (14, "SIGALRM"), (15, "SIGTERM")]

/-- The number of a signal and its name. -/
def signalText (number : Nat) : String :=
  toString number ++
    match signalNames.lookup number with
    | some name => " (" ++ name ++ ")"
    | none => ""

/-- What is told about a command that did not do what it should. -/
def failureText (program : String) : Ending → String
  | .exited code => "Command \x60" ++ program ++ "\x60 exited with exit status: " ++
      toString code.toNat
  | .signalled number => "Command \x60" ++ program ++ "\x60 exited with signal: " ++
      signalText number
  | .notFound => "Failed to run \x60" ++ program ++
      "\x60: No such file or directory (os error 2)"

end Ending

/-- What running a command comes to. -/
structure Execution where
  transcript : Transcript := {}
  ending : Ending
  deriving DecidableEq, Repr

end LivePage
