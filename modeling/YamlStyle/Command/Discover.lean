import YamlStyle.Config.Load
import YamlStyle.Settings

/-!
# Finding configurations and files

Where a run takes its configuration from if none is given, and the files that are below a
directory.
-/

namespace YamlStyle.Command

def origin : String := "yamlsieve.cli"

/-- The names of the configuration of a project. -/
def projectNames : List String := [".yamllint", ".yamllint.yaml", ".yamllint.yml"]

/-- The directories from one up to the root, the home directory being the last if it is among
them. Places are told by their parts, last part first. -/
def upwards (home : List String) : List String → List (List String)
  | [] => [[]]
  | part :: above =>
    (part :: above) :: if part :: above == home then [] else upwards home above

/-- The path of a place. -/
def pathOf (place : List String) : String := "/" ++ "/".intercalate place.reverse

/-- What a run knows apart from its arguments and files: the variables of the environment, the
directory it runs in, the home directory, and what is there to be read from standard input. -/
structure Surroundings where
  vars : Environment
  directory : String
  home : String
  input : Text.Bytes

/-- The place of an absolute path, last part first. -/
def placeOf (path : String) : List String := (Path.parts path).reverse

variable {m : Type → Type} [Monad m]

/-- The first of some paths that is a file. -/
def firstFile? (host : Host m) : List String → LoggedT m Config.Failure (Option String)
  | [] => pure none
  | path :: paths => do
    match ← LoggedT.ask (host.isFile path) with
    | .error e => LoggedT.fail (.unreachable e)
    | .ok true => return some path
    | .ok false => firstFile? host paths

/-- The configuration of the project that the run is in. -/
def projectConfig? (host : Host m) (s : Surroundings) :
    LoggedT m Config.Failure (Option String) :=
  firstFile? host ((upwards (placeOf s.home) (placeOf s.directory)).flatMap fun place =>
    projectNames.map (Path.join (pathOf place)))

/-- The configuration of the user. -/
def userConfig? (host : Host m) (s : Surroundings) :
    LoggedT m Config.Failure (Option String) :=
  let base := (s.vars.filled? "XDG_CONFIG_HOME").getD (Path.join s.home ".config")
  firstFile? host [Path.plain (Path.join base "yamllint/config")]

/-- The configuration that a text on the command line is; a text without a colon is the name of
one to extend. -/
def contentOf (data : String) : String :=
  if data != "" && !data.contains ':' then s!"extends: {data}" else data

/-- The configuration of a run. -/
def configOf (L : Config.Loader m) (s : Surroundings) (settings : Settings)
    (file data : Option String) : LoggedT m Config.Failure Config := do
  match data, file with
  | some data, _ => L.ofContent (contentOf data).toList
  | none, some path => L.ofFile path
  | none, none =>
    match ← projectConfig? L.host s with
    | some path => do
      LoggedT.debug origin s!"using project config {path}"
      L.ofFile path
    | none =>
      match settings.configFile.filter (· != "") with
      | some path => do
        LoggedT.debug origin s!"using config from settings {path}"
        L.ofFile path
      | none =>
        match ← userConfig? L.host s with
        | some path => do
          LoggedT.debug origin s!"using user config {path}"
          L.ofFile path
        | none => L.usual

/-- How many directories may be inside one another. -/
def deepest : Nat := 1000

/-- The files below a directory, its own first; names are in order. -/
def filesBelow (host : Host m) : Nat → String → m (List String)
  | 0, _ => return []
  | fuel + 1, directory => do
    let listing ← host.list directory
    let sorted (names : List String) : List String :=
      (names.mergeSort fun a b => a ≤ b).map (Path.join directory)
    let below ← (sorted listing.directories).mapM (filesBelow host fuel)
    return sorted listing.files ++ below.flatten

/-- The files that a name on the command line stands for: those to look at below a directory, or
whatever it names. -/
def expand (host : Host m) (c : Config) (name : String) : m (List String) := do
  if ← host.isDirectory name then
    return (← filesBelow host deepest name).filter fun path => c.isYamlFile path && !c.isIgnored path
  else return [name]

def expandAll (host : Host m) (c : Config) (names : List String) : m (List String) := do
  return (← names.mapM (expand host c)).flatten

end YamlStyle.Command
