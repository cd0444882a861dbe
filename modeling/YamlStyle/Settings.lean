import YamlStyle.Host.Basic
import YamlStyle.Host.Variables
import YamlStyle.Text.Case
import YamlStyle.Text.Encoding.Utf

/-!
# Settings

What is set outside of any configuration: by variables of the environment, or else by a file
`.env` in the directory of the run. Names are told apart without regard to case.
-/

namespace YamlStyle

structure Settings where
  logLevel : String
  /-- The configuration where a project has none. -/
  configFile : Option String
  /-- The name of the encoding of all files. -/
  fileEncoding : Option String
  deriving DecidableEq, Repr

namespace Settings

/-- The settings that variables make. Those of the environment come before those of a file. -/
def ofVariables (vars : Environment) (set : List EnvFile.Statement) : Settings :=
  let value? (name : String) : Option String :=
    match vars.anyCase? name with
    | some v => some v
    | none => EnvFile.anyCase? set name
  { logLevel := (value? "yamlsieve_log_level").getD "WARNING"
    configFile := value? "yamlsieve_config_file"
    fileEncoding := value? "yamlsieve_file_encoding" }

/-- The file that may set more variables. -/
def fileName : String := ".env"

/-- The settings of a run, or the bytes of the file that stand for no characters. -/
def load {m : Type → Type} [Monad m] (host : Host m) (vars : Environment) :
    LoggedT m Text.Undecodable Settings := do
  let kind ← LoggedT.ask (host.kind fileName)
  if kind.toOption == some .file then
    match ← LoggedT.ask (host.read fileName) with
    | .ok bytes => LoggedT.ofLogged do
      let t ← Logged.ofExcept (Text.Utf8.decode bytes)
      return ofVariables vars (← EnvFile.assignments vars t)
    | .error _ => return ofVariables vars []
  else return ofVariables vars []

/-- The least rank that a level of records asks for. -/
def logRank? (settings : Settings) : Except String Nat :=
  let name := String.ofList (Text.upper settings.logLevel.toList)
  let ranks := [("NOTSET", 0), ("DEBUG", 10), ("INFO", 20), ("WARN", 30), ("WARNING", 30),
    ("ERROR", 40), ("CRITICAL", 50), ("FATAL", 50)]
  match ranks.lookup name with
  | some rank => .ok rank
  | none => .error s!"Unknown level: {Text.quoted name.toList}"

end Settings

end YamlStyle
