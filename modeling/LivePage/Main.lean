import LivePage.CommandLine.Program
import LivePage.Process.Programs

/-!
# Running the program

The world of the program is read from the system: its configuration files and the
variables that they refer to.  There is no network in it, so every docs server
refuses its connections, and no process is started: rebuild commands are those of
`Programs`.
-/

open LivePage LivePage.CommandLine

/-- The place of the working directory. -/
def workingDirectory : IO Place := do
  return (((← IO.currentDir).toString.splitOn "/").filter (· ≠ "")).reverse

def look (path : String) : IO (Option Entry) := do
  try
    return some (.file (← IO.FS.readBinFile path).toList)
  catch
    | .inappropriateType .. => return some .directory
    | _ => return none

/-- The variables that a configuration file refers to. -/
def variablesOf (e : Entry) : List String :=
  match e.text with
  | .error _ => []
  | .ok cs => ((Config.ofToml? cs).map Config.references).getD []

/-- Reads the world around an invocation. -/
def readWorld (i : Invocation) : IO World := do
  let directory ← workingDirectory
  let mut entries : List (String × Entry) := []
  let mut bindings : List (String × List UInt8) := []
  for path in Config.Surroundings.candidates directory i.config? do
    if let some e ← look path then
      entries := entries ++ [(path, e)]
      for name in variablesOf e do
        if let some value ← IO.getEnv name then
          bindings := bindings ++ [(name, Utf8.encode value.toList)]
  return {
    surroundings := { find? := fun p => entries.lookup p, directory, environment := { bindings } }
    run := fun _ words => Programs.run words
    server := { host := [], port := 0, replies := [] } }

/-- Writes to the outputs of the program. -/
def tell (t : Transcript) : IO Unit := do
  (← IO.getStdout).putStr t.output
  (← IO.getStderr).putStr t.errors

/-- Waits for a server that never answers. -/
partial def wait : IO UInt32 := do
  IO.sleep 1000
  wait

/-- Runs the program. -/
def main (words : List String) : IO UInt32 := do
  match Invocation.ofWords? words with
  | none =>
    tell { errors := usageText }
    return 2
  | some i =>
    let w ← readWorld i
    match w.report? i with
    | none =>
      tell (w.opening i)
      wait
    | some report =>
      let exit := report.exit
      tell exit.transcript
      return exit.code.toUInt32
