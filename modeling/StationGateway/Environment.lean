/-!
# The environment

The variables that the gateway is run with, and the paths that follow from them. The settings are
looked for where the command line says, else where the environment says, else in the directory that
the user keeps settings in.
-/

namespace StationGateway

/-- What the gateway is told by its surroundings. -/
structure Environment where
  /-- Where the settings are, in `OCPP_CONFIG`. -/
  configPath : Option String := none
  /-- The directory of settings, in `XDG_CONFIG_HOME`. -/
  configHome : Option String := none
  /-- The directory of the user, in `HOME`. -/
  home : Option String := none
  /-- The directory that the user's account has. -/
  accountHome : Option String := none
  /-- What is logged, in `RUST_LOG`. -/
  logFilter : Option String := none
deriving DecidableEq, Repr

/-- A path below a directory. A path that is absolute stands for itself. -/
def joinPath (directory path : String) : String :=
  if path.toList.head? = some '/' then path
  else if directory.toList.getLast?.all (· == '/') then directory ++ path
  else directory ++ "/" ++ path

namespace Environment

/-- The directory that the user keeps settings in. A directory in `XDG_CONFIG_HOME` counts only if it
is absolute, and one in `HOME` if it is not empty. -/
def configDirectory (e : Environment) : Option String :=
  match e.configHome.filter fun d => d.toList.head? == some '/' with
  | some directory => some directory
  | none => ((e.home.filter (· ≠ "")).or e.accountHome).map (joinPath · ".config")

/-- Where the settings are unless something else is said. -/
def defaultConfigPath (e : Environment) : Option String :=
  e.configDirectory.map fun d => joinPath (joinPath d "ocpp-gateway") "config.toml"

/-- Where the settings are, with what the command line says. -/
def resolveConfigPath (e : Environment) (explicit : Option String) : Option String :=
  (explicit.or e.configPath).or e.defaultConfigPath

end Environment

end StationGateway
