import YamlStyle.Command.Run

/-!
# The program

The command line on a real machine: its files, its environment and its standard streams.
-/

namespace YamlStyle.Main

def faultOf : IO.Error → FileFault
  | .inappropriateType .. => .aboveIsFile
  | .invalidArgument .. => .nameTooLong
  | _ => .missing

/-- What a path leads to, links followed. -/
def kind (path : String) : IO (Except FileFault FileKind) := do
  if path.isEmpty then return .error .missing
  match Path.textFault? path with
  | some fault => return .error fault
  | none =>
    try
      let found ← ((← IO.currentDir) / path).metadata
      return .ok (if found.type == .dir then .directory else .file)
    catch e => return .error (faultOf e)

def read (path : String) : IO (Except FileFault Text.Bytes) := do
  match ← kind path with
  | .error fault => return .error fault
  | .ok .directory => return .error .isDirectory
  | .ok .file =>
    try
      return .ok (← IO.FS.readBinFile path).toList
    catch e => return .error (faultOf e)

def list (path : String) : IO Listing := do
  let names := (← ((← IO.currentDir) / path).readDir).toList.map (·.fileName)
  let mut directories := []
  let mut files := []
  for name in names do
    match ← kind (Path.join path name) with
    | .ok .directory => directories := name :: directories
    | _ => files := name :: files
  return ⟨directories, files⟩

def host : Host IO := ⟨read, kind, list⟩

/-- The variables that a run looks at. -/
def variableNames : List String :=
  ["yamlsieve_log_level", "YAMLSIEVE_LOG_LEVEL", "yamlsieve_config_file", "YAMLSIEVE_CONFIG_FILE",
   "yamlsieve_file_encoding", "YAMLSIEVE_FILE_ENCODING", "HOME", "XDG_CONFIG_HOME",
   "GITHUB_ACTIONS", "GITHUB_WORKFLOW", "LC_ALL", "LANG"] ++ Locale.categories

def environment : IO Environment := do
  let read (name : String) : IO (Option (String × String)) := do
    return (← IO.getEnv name).map fun v => (name, v)
  return (← variableNames.mapM read).filterMap id

/-- All that there is on a stream. -/
partial def readAll (stream : IO.FS.Stream) (found : ByteArray) : IO ByteArray := do
  let piece ← stream.read 65536
  if piece.isEmpty then return found else readAll stream (found ++ piece)

/-- The directory that the bundled configurations are said to be in. -/
def bundled : String := "conf"

end YamlStyle.Main

open YamlStyle in
def main (args : List String) : IO UInt32 := do
  let vars ← Main.environment
  let input ←
    if args.contains Command.inputName then Main.readAll (← IO.getStdin) .empty else pure .empty
  let surroundings : Command.Surroundings :=
    { vars
      directory := (← IO.currentDir).toString
      home := (vars.lookup "HOME").getD "/"
      input := input.toList }
  let o ← Command.run Main.host Main.bundled surroundings args
  IO.print o.output
  IO.eprint o.errors
  match o.failure with
  | some f => IO.eprintln f.message
  | none => pure ()
  return o.code.toUInt32
