import LivePage.CommandLine.Attributes

/-!
# The program

The program does what its command line asks for, writes to its two outputs, and
ends with a code: 0 if all went well, 1 if not, and 2 for a command line that it
cannot read.
-/

namespace LivePage
namespace CommandLine

/-- What the program writes when it is asked for its version. -/
def versionText : String := "dz 0.1.0\n"

/-- What the program writes to the error output about a command line that it
cannot read. -/
def usageText : String :=
  "usage: dz listen [-c PATH] [--host HOST] [-p PORT] [--endpoint PATH] [--once] [-v]" ++
    " [-- COMMAND...]\n       dz attributes [-c PATH]\n       dz --version\n"

/-- How the program ended. -/
structure Exit where
  code : UInt8
  transcript : Transcript
  server : Http.Server

/-- Where the program runs. -/
structure World where
  surroundings : Config.Surroundings
  run : Runner
  server : Http.Server

/-- What a command of the program comes to, if it ends. -/
def World.report? (w : World) : Invocation → Option Report
  | .version => some { result := .ok (), transcript := { output := versionText }, server := w.server }
  | .listen options => listen? w.surroundings w.run w.server options
  | .attributes config => some (attributes w.surroundings w.server config)

/-- What the program tells before it follows an event stream. -/
def World.opening (w : World) : Invocation → Transcript
  | .listen options =>
    match w.surroundings.load options.config options.overrides with
    | .ok l => banner l options.command
    | .error _ => {}
  | _ => {}

/-- The end of the program after a command. -/
def Report.exit (r : Report) : Exit :=
  match r.result with
  | .ok () => { code := 0, transcript := r.transcript, server := r.server }
  | .error f =>
    { code := 1
      transcript := r.transcript ++ errorLine ("Error: " ++ f.text)
      server := r.server }

/-- The path of the configuration file that is asked for. -/
def Invocation.config? : Invocation → Option String
  | .version => none
  | .listen options => options.config
  | .attributes config => config

/-- Runs the program, if it ends. -/
def World.exit? (w : World) (words : List String) : Option Exit :=
  match Invocation.ofWords? words with
  | none => some { code := 2, transcript := { errors := usageText }, server := w.server }
  | some invocation => (w.report? invocation).map Report.exit

end CommandLine
end LivePage
