import YamlStyle.Command.Arguments
import YamlStyle.Command.Discover
import YamlStyle.Host.Locale
import YamlStyle.Lint.Run

/-!
# Runs

What the program prints for a command line, and the code it ends with. Problems are printed file
by file, so what comes before a file that cannot be read is printed still.
-/

namespace YamlStyle.Command

/-- Why a run breaks off without a message of its own. -/
inductive Failure where
  | settings (message : String)
  | settingsFile (u : Text.Undecodable)
  | config (f : Config.Failure)
  | locale (f : Locale.Fault)
  | lint (f : Lint.Failure)
  | unreachable (e : FileError)
  deriving Repr

def Failure.message : Failure → String
  | settings message => message
  | settingsFile u => u.message
  | config f => f.message
  | locale f => f.message
  | lint f => f.message
  | unreachable e => e.message

structure Outcome where
  code : Nat
  output : String
  errors : String
  failure : Option Failure
  deriving Repr

namespace Outcome

/-- The end of a run. -/
def ends (code : Nat) (output errors : String) : Outcome := ⟨code, output, errors, none⟩

def breaks (f : Failure) (errors : String) : Outcome := ⟨1, "", errors, some f⟩

/-- What is printed before the rest of a run. -/
def after (output errors : String) (o : Outcome) : Outcome :=
  { o with output := output ++ o.output, errors := errors ++ o.errors }

end Outcome

def version : String := "yamlsieve, version 0.1.0\n"

def help : String := usage ++ "
  Lint YAML FILES (or directories of YAML files).

  Use - to read from standard input.

  Examples:

      # Lint every YAML file below the current directory
      yamlsieve .

      # Use the relaxed configuration
      yamlsieve -d relaxed config.yaml

Options:
  --version                       Show the version and exit.
  -c, --config-file FILE          Path to a custom configuration file
  -d, --config-data TEXT          Custom configuration as YAML source, or the
                                  name of a bundled one
  -f, --format [parsable|standard|colored|github|auto]
                                  Output format
  -s, --strict                    Return a non-zero exit code on warnings as
                                  well as errors
  --no-warnings                   Output only error level problems
  --list-files                    List the files to lint and exit
  --help                          Show this message and exit.
"

/-- The records that matter enough, a line each. -/
def shownRecords (least : Nat) (records : List Record) : String :=
  String.join ((records.filter fun r => least ≤ r.severity.rank).map fun r =>
    s!"{r.severity.name}:{r.origin}:{r.message}\n")

/-- The name that stands for standard input. -/
def inputName : String := "-"

/-- The code of a run whose problems have this rank at most. -/
def codeOf (rank : Nat) (strict : Bool) : Nat :=
  if rank == Level.rank (some .error) then 1
  else if rank == Level.rank (some .warning) && strict then 2
  else 0

/-- What a run goes by. -/
structure Plan where
  arguments : Arguments
  surroundings : Surroundings
  asked : Text.Asked
  /-- The least rank of records that are shown. -/
  leastRank : Nat
  config : Config

variable {m : Type → Type} [Monad m]

/-- What there is to lint under a name, and how it is told from other files; nothing is left of
standard input once it has been read. -/
def contentOf? (host : Host m) (p : Plan) (isFirst : Bool) (name : String) :
    m (Except FileError (Text.Bytes × Option String)) := do
  if name == inputName then return .ok (if isFirst then p.surroundings.input else [], none)
  else
    let plain := Path.plain name
    match ← host.read plain with
    | .ok bytes =>
      return .ok (bytes, some (String.ofList (PathPattern.normalize name.toList)))
    | .error fault => return .error ⟨fault, plain⟩

/-- The message about a file that cannot be read. -/
def readingError (name reason : String) : String :=
  Report.unstyled s!"Error reading {name}: {reason}" ++ "\n"

/-- Lints files one after another; `rank` is the highest so far, `isFirst` whether standard input
has not been read yet. -/
def lintFiles (host : Host m) (p : Plan) (rank : Nat) (isFirst : Bool) : List String → m Outcome
  | [] => return .ends (codeOf rank p.arguments.strict) "" ""
  | name :: names => do
    let shown := if name == inputName then "stdin" else name
    match ← contentOf? host p isFirst name with
    | .error e =>
      if e.fault.isOfSystem then return .ends 1 "" (readingError shown e.message)
      else return .breaks (.unreachable e) ""
    | .ok (bytes, path) =>
      let linted := Lint.run p.asked (.bytes bytes) p.config path
      let records := shownRecords p.leastRank linted.records
      match linted.outcome with
      | .error (.undecodable (.undecodable u)) =>
        return .ends 1 "" (records ++ readingError shown u.message)
      | .error f => return .breaks (.lint f) records
      | .ok problems =>
        let format := p.arguments.format.resolve p.surroundings.vars
        let lines := Report.lines problems shown format p.arguments.noWarnings
        let rest ← lintFiles host p (max rank (Report.rank problems))
          (isFirst && name != inputName) names
        return rest.after (Report.printed lines) records

/-- Prints the files that would be linted. -/
def listFiles (p : Plan) (files : List String) : Outcome :=
  let shown := files.filter fun path => path != inputName && !p.config.isIgnored path
  .ends 0 (Report.printed (shown.map Report.unstyled)) ""

/-- Lints the files of a plan, or lists them. -/
def perform (host : Host m) (p : Plan) : m Outcome := do
  match p.config.locale.bind (Locale.fault? p.surroundings.vars) with
  | some f => return .breaks (.locale f) ""
  | none =>
    let files ← expandAll host p.config p.arguments.files
    if p.arguments.listFiles then return listFiles p files
    else lintFiles host p 0 true files

/-- The records of the time before it is known which of them to show: a warning is a line by
itself. -/
def earlyRecords (records : List Record) : String :=
  String.join ((records.filter fun r => Severity.warning.rank ≤ r.severity.rank).map fun r =>
    r.message ++ "\n")

/-- Runs with arguments that are in order, by settings that have been read. -/
def startWith (loader : Config.Loader m) (s : Surroundings) (settings : Settings) (a : Arguments) :
    m Outcome := do
  match settings.logRank? with
  | .error message => return .breaks (.settings message) ""
  | .ok leastRank =>
    if a.files.isEmpty then return .ends 2 "" UsageFault.noFiles.report
    else
      let loaded ← (configOf loader s settings a.configFile a.configData).run
      let records := shownRecords leastRank loaded.records
      match loaded.outcome with
      | .error f =>
        if f.isTold then return .ends 1 "" (records ++ Report.unstyled f.message ++ "\n")
        else return .breaks (.config f) records
      | .ok config =>
        return (← perform loader.host ⟨a, s, loader.asked, leastRank, config⟩).after "" records

/-- Runs with arguments that are in order. `bundled` is the directory that the bundled
configurations are said to be in. -/
def start (host : Host m) (bundled : String) (s : Surroundings) (a : Arguments) : m Outcome := do
  let loaded ← (Settings.load host s.vars).run
  let early := earlyRecords loaded.records
  match loaded.outcome with
  | .error u => return .breaks (.settingsFile u) early
  | .ok settings =>
    let asked : Text.Asked := ⟨loaded.records, .ok settings.fileEncoding⟩
    return (← startWith ⟨host, asked, bundled⟩ s settings a).after "" early

/-- Runs with a command line. -/
def run (host : Host m) (bundled : String) (s : Surroundings) (args : List String) : m Outcome := do
  match ← Request.ofArguments host args with
  | .error (.usage f) => return .ends 2 "" f.report
  | .error (.path e) => return .breaks (.unreachable e) ""
  | .ok .version => return .ends 0 version ""
  | .ok .help => return .ends 0 help ""
  | .ok (.run a) => start host bundled s a

end YamlStyle.Command
