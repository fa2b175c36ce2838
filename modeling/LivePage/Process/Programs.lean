import LivePage.Process.Execution
import LivePage.Process.Script

/-!
# Programs

The programs that a rebuild command can name: one that succeeds, one that fails,
one that writes its arguments, and a shell that runs a script of such commands.
They stand for the programs of a system, of which following needs to know only what
they write and how they end; no process is started for them.
-/

namespace LivePage
namespace Programs

/-- Writes words with a space between them and a line end after them, unless the
first word forbids it. -/
def echo : List String → String
  | "-n" :: words => " ".intercalate words
  | words => " ".intercalate words ++ "\n"

/-! ## The shell -/

/-- A shell that runs a script. -/
structure Shell where
  /-- The name of the shell and its arguments. -/
  arguments : List String
  /-- How the last command ended. -/
  status : UInt8 := 0
  transcript : Transcript := {}
  /-- How the script ended, if it did. -/
  ending : Option Ending := none
  deriving DecidableEq, Repr

namespace Shell

/-- The number of the process that runs the script.  It stands for any number. -/
def processId : String := "4242"

def value (s : Shell) (name : List Char) : List Char :=
  let text :=
    if name = ['?'] then toString s.status.toNat
    else if name = ['$'] then processId
    else if name = ['#'] then toString s.arguments.tail.length
    else if name = ['@'] ∨ name = ['*'] then " ".intercalate s.arguments.tail
    else if Digits.isNumeral name then (s.arguments[Digits.value name]?).getD ""
    else ""
  text.toList

/-- Where the two outputs of a command go: to an output of the shell, or
nowhere. -/
structure Outlets where
  output : Option Nat := some 1
  errors : Option Nat := some 2
  deriving DecidableEq, Repr

/-- Where an outlet leads to after a redirection. -/
def target (o : Outlets) (path : String) : Option Nat :=
  if path = "&1" then o.output else if path = "&2" then o.errors else none

def Outlets.redirect (o : Outlets) (word : String) : Outlets :=
  if word.startsWith "2>" then { o with errors := target o (word.drop 2).toString }
  else if word.startsWith "1>" then { o with output := target o (word.drop 2).toString }
  else { o with output := target o (word.drop 1).toString }

/-- Writes to an output of the shell. -/
def write (s : Shell) (outlet : Option Nat) (text : String) : Shell :=
  match outlet with
  | some 1 => { s with transcript := s.transcript ++ { output := text } }
  | some 2 => { s with transcript := s.transcript ++ { errors := text } }
  | _ => s

def complain (s : Shell) (o : Outlets) (message : String) : Shell :=
  s.write o.errors (s.arguments.headD "sh" ++ ": 1: " ++ message ++ "\n")

def readCode? (word : String) : Option Nat :=
  if Digits.isNumeral word.toList then some (Digits.value word.toList) else none

def exit (s : Shell) (o : Outlets) : List String → Shell
  | [] => { s with ending := some (.exited s.status) }
  | word :: _ =>
    match readCode? word with
    | some n => { s with ending := some (.exited (UInt8.ofNat n)) }
    | none =>
      { s.complain o ("exit: Illegal number: " ++ word) with ending := some (.exited 2) }

/-- Reads a signal by its number or its name. -/
def readSignal? (word : String) : Option Nat :=
  (readCode? word).or
    ((Ending.signalNames.find? fun (_, name) => name = word ∨ name = "SIG" ++ word).map (·.1))

/-- The signal to send and the processes to send it to. -/
def killParts : List String → Option Nat × List String
  | "-s" :: name :: targets => (readSignal? name, targets)
  | word :: targets =>
    if word.startsWith "-" then (readSignal? (word.drop 1).toString, targets)
    else (some 15, word :: targets)
  | [] => (some 15, [])

def kill (s : Shell) (o : Outlets) (words : List String) : Shell :=
  match killParts words with
  | (some signal, targets) =>
    if processId ∈ targets then
      if signal = 0 then { s with status := 0 } else { s with ending := some (.signalled signal) }
    else { s.complain o "kill: No such process" with status := 1 }
  | (none, _) => { s.complain o "kill: bad signal" with status := 1 }

/-- Runs the command of the given words. -/
def perform (s : Shell) (o : Outlets) : List String → Shell
  | [] => { s with status := 0 }
  | "echo" :: words => { s.write o.output (echo words) with status := 0 }
  | "exit" :: words => s.exit o words
  | "kill" :: words => s.kill o words
  | word :: _ =>
    if word ∈ ["true", ":"] then { s with status := 0 }
    else if word = "false" then { s with status := 1 }
    else { s.complain o (word ++ ": not found") with status := 127 }

/-- Whether a command runs. -/
def admits (s : Shell) : Script.Condition → Bool
  | .always => true
  | .afterSuccess => s.status = 0
  | .afterFailure => s.status ≠ 0

/-- Runs one command of a script, unless the script has ended. -/
def step (s : Shell) (command : Script.Condition × List Script.Mark) : Shell :=
  if s.ending.isSome || !s.admits command.1 then s
  else
    let marks := Script.substitute s.value command.2.length command.2
    let words := Script.splitWords [] marks
    let (redirections, words) := words.partition Script.isRedirection
    let outlets := (redirections.map Script.wordText).foldl Outlets.redirect {}
    if words.isEmpty && redirections.isEmpty then s else s.perform outlets (words.map Script.wordText)

/-- What running a script comes to. -/
def run (script : String) (arguments : List String) : Execution :=
  match Script.marks? .outside script.toList with
  | none => { ending := .exited 2 }
  | some marks =>
    let s := (Script.commands .always marks).foldl step { arguments }
    { transcript := s.transcript, ending := s.ending.getD (.exited s.status) }

end Shell

/-- What running a command comes to. -/
def run : List String → Execution
  | "true" :: _ => { ending := .exited 0 }
  | "false" :: _ => { ending := .exited 1 }
  | "echo" :: words => { transcript := { output := echo words }, ending := .exited 0 }
  | "sh" :: "-c" :: script :: arguments =>
    Shell.run script (if arguments.isEmpty then ["sh"] else arguments)
  | "sh" :: _ => { ending := .exited 2 }
  | _ => { ending := .notFound }

end Programs
end LivePage
