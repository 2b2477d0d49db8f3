import StationGateway.Launch

/-!
# The program

Reads the environment and the settings file, runs the command line, and prints what the run leaves.
The program comes without sockets, so that a start finds that it cannot listen.
-/

namespace StationGateway.Program

/-- The variables of the environment that the gateway looks at. -/
def readEnvironment : IO Environment := do
  return {
    configPath := ← IO.getEnv "OCPP_CONFIG"
    configHome := ← IO.getEnv "XDG_CONFIG_HOME"
    home := ← IO.getEnv "HOME"
    logFilter := ← IO.getEnv "RUST_LOG" }

/-- What is found at a path. -/
def readFile (path : String) : IO Config.File := do
  try
    return .content (← IO.FS.readBinFile path)
  catch
    | .noFileOrDirectory .. => return .missing
    | .inappropriateType .. => return .directory
    | .permissionDenied .. => return .unreadable "Permission denied (os error 13)"
    | fault => return .unreadable fault.toString

/-- Runs a command line. -/
def run (args : List String) : IO UInt32 := do
  let environment ← readEnvironment
  let file ←
    match Launch.settingsPath? environment args with
    | some path => readFile path
    | none => pure .missing
  let output :=
    match Launch.run environment (fun _ => file) args with
    | .finished output => output
    | .start startup => startup.output (.bind startup.config.listenAddress .notSupported)
  IO.print output.stdout
  IO.eprint output.stderr
  return output.exitCode

end StationGateway.Program

/-- Runs the command line of the program. -/
def main (args : List String) : IO UInt32 :=
  StationGateway.Program.run args
