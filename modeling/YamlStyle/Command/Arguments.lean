import YamlStyle.Host.Basic
import YamlStyle.Report
import YamlStyle.Text.Basic

/-!
# Arguments

What is asked for on the command line, and what may have been meant by an argument that no option has.
-/

/-!
## Similar texts

How much two texts have in common: their longest common run, and the same again of what stands
before it and of what stands after it in both.
-/

namespace YamlStyle.Text

/-- A run of characters that two texts share, and where it starts in each. -/
structure SharedRun where
  left : Nat
  right : Nat
  length : Nat
  deriving DecidableEq, Repr

def commonStart : Text → Text → Nat
  | a :: s, b :: t => if a == b then commonStart s t + 1 else 0
  | _, _ => 0

/-- The longest run that two texts share, the earliest of those in the first, then in the second
text. -/
def longestRun (s t : Text) : SharedRun :=
  let runs := (List.range s.length).flatMap fun i => (List.range t.length).map fun j =>
    SharedRun.mk i j (commonStart (s.drop i) (t.drop j))
  runs.foldl (fun longest run => if longest.length < run.length then run else longest) ⟨0, 0, 0⟩

/-- How many characters two texts share in runs that stand in the same order in both. A run takes
at least a character, so the length of the first text is fuel enough. -/
def sharedWithin : Nat → Text → Text → Nat
  | 0, _, _ => 0
  | fuel + 1, s, t =>
    let run := longestRun s t
    if run.length == 0 then 0
    else
      run.length + sharedWithin fuel (s.take run.left) (t.take run.right) +
        sharedWithin fuel (s.drop (run.left + run.length)) (t.drop (run.right + run.length))

def shared (s t : Text) : Nat := sharedWithin s.length s t

/-- Whether what two texts share is three fifths of them or more. -/
def isSimilar (s t : Text) : Bool := 3 * (s.length + t.length) ≤ 10 * shared s t

/-- Whether the first of two texts is closer to a text, or as close and the greater one. -/
def isCloser (word s t : Text) : Bool :=
  let here := shared s word * (t.length + word.length)
  let there := shared t word * (s.length + word.length)
  there < here || (here == there && String.ofList t ≤ String.ofList s)

/-- The texts most similar to a text, three at most, the closest first. -/
def closest (word : Text) (known : List Text) : List Text :=
  ((known.filter (isSimilar · word)).mergeSort (isCloser word)).take 3

end YamlStyle.Text

/-!
## Options

What is asked for on the command line: options in any order among the files, up to a double dash.
-/

namespace YamlStyle.Command

/-- The options of the program. -/
inductive Switch where
  | version | configFile | configData | format | strict | noWarnings | listFiles | help
  deriving DecidableEq, Repr

namespace Switch

def takesValue : Switch → Bool
  | configFile | configData | format => true
  | _ => false

def ofLetter? (c : Char) : Option Switch :=
  [('c', configFile), ('d', configData), ('f', format), ('s', strict)].lookup c

/-- The options by their long names. -/
def words : List (String × Switch) :=
  [("--version", version), ("--config-file", configFile), ("--config-data", configData),
    ("--format", format), ("--strict", strict), ("--no-warnings", noWarnings),
    ("--list-files", listFiles), ("--help", help)]

def ofWord? (s : String) : Option Switch := words.lookup s

/-- The long names that a name may be meant for. -/
def meant (name : String) : List String :=
  (Text.closest name.toList (words.map (·.1.toList))).map String.ofList

end Switch

/-- What is wrong with a command line. -/
inductive UsageFault where
  /-- An option that there is not, and the names that may be meant. -/
  | noSuchOption (name : String) (meant : List String)
  | noArgument (name : String)
  | noValueTaken (name : String)
  | unknownFormat (name : String)
  | configIsDirectory (path : String)
  | noFiles
  deriving DecidableEq, Repr

/-- The question that offers other names, in the order of their characters. -/
def suggestion (meant : List String) : String :=
  let names := (meant.mergeSort fun s t => decide (s ≤ t)).map fun s => Text.quoted s.toList
  match names with
  | [] => ""
  | [name] => s!" Did you mean {name}?"
  | _ => " (Did you mean one of: " ++ ", ".intercalate names ++ "?)"

def UsageFault.message : UsageFault → String
  | noSuchOption name meant => s!"No such option {Text.quoted name.toList}.{suggestion meant}"
  | noArgument name => s!"Option {Text.quoted name.toList} requires an argument."
  | noValueTaken name => s!"Option {Text.quoted name.toList} does not take a value."
  | unknownFormat name =>
    let known := ", ".intercalate (Report.Format.all.map fun f => Text.quoted f.name.toList)
    s!"Invalid value for '-f' / '--format': {Text.quoted name.toList} is not one of {known}."
  | configIsDirectory path =>
    s!"Invalid value for '-c' / '--config-file': File {Text.quoted path.toList} is a directory."
  | noFiles => "No files to lint. Use - to read from standard input."

/-- Whether the usage is shown with a fault. -/
def UsageFault.showsUsage : UsageFault → Bool
  | noArgument _ | noValueTaken _ => false
  | _ => true

def usage : String := "Usage: yamlsieve [OPTIONS] [FILES]...\n"

def UsageFault.report (f : UsageFault) : String :=
  let head := if f.showsUsage then usage ++ "Try 'yamlsieve --help' for help.\n\n" else ""
  s!"{head}Error: {f.message}\n"

/-- An option with its value, empty for one that takes none. -/
abbrev Setting := Switch × String

/-- The options and the files on a command line. -/
structure Given where
  settings : List Setting
  files : List String
  deriving DecidableEq, Repr

namespace Given

/-- The options that letters behind one dash stand for; the last one may need the next argument
as its value. -/
def ofLetters : Text → Except UsageFault (List Setting × Option Switch)
  | [] => .ok ([], none)
  | c :: r =>
    match Switch.ofLetter? c with
    | none => .error (.noSuchOption (String.ofList ['-', c]) [])
    | some s =>
      if s.takesValue then
        if r.isEmpty then .ok ([], some s) else .ok ([(s, String.ofList r)], none)
      else (ofLetters r).map fun (settings, open?) => ((s, "") :: settings, open?)

def addFile (file : String) (g : Given) : Given := { g with files := file :: g.files }

def addSettings (settings : List Setting) (g : Given) : Given :=
  { g with settings := settings ++ g.settings }

/-- An argument up to its first equals sign, and what follows the sign. -/
def splitValue (arg : String) : String × Option String :=
  let name := arg.toList.takeWhile (· != '=')
  let value := arg.toList.drop name.length
  (String.ofList name, if value.isEmpty then none else some (String.ofList (value.drop 1)))

def isOption (arg : String) : Bool := arg.startsWith "-" && arg != "-"

/-- Sorts the arguments into options and files. -/
def ofArguments : List String → Except UsageFault Given
  | [] => .ok ⟨[], []⟩
  | arg :: rest =>
    if arg == "--" then .ok ⟨[], rest⟩
    else if !isOption arg then (ofArguments rest).map (addFile arg)
    else
      let (name, value?) := splitValue arg
      match Switch.ofWord? name with
      | some s =>
        match s.takesValue, value? with
        | true, some v => (ofArguments rest).map (addSettings [(s, v)])
        | true, none =>
          match rest with
          | [] => .error (.noArgument name)
          | v :: rest => (ofArguments rest).map (addSettings [(s, v)])
        | false, some _ => .error (.noValueTaken name)
        | false, none => (ofArguments rest).map (addSettings [(s, "")])
      | none =>
        if arg.startsWith "--" then .error (.noSuchOption name (Switch.meant name))
        else
          match ofLetters (arg.toList.drop 1) with
          | .error f => .error f
          | .ok (settings, none) => (ofArguments rest).map (addSettings settings)
          | .ok (settings, some s) =>
            match rest with
            | [] => .error (.noArgument (String.ofList ['-', (arg.toList.getLast?).getD '-']))
            | v :: rest => (ofArguments rest).map (addSettings (settings ++ [(s, v)]))

/-- The value of an option, the last one if it is given more than once. -/
def value? (g : Given) (s : Switch) : Option String :=
  (g.settings.reverse.find? (·.1 == s)).map (·.2)

def has (g : Given) (s : Switch) : Bool := g.settings.any (·.1 == s)

/-- The options that are given, each once, in the order in which they first occur. -/
def switches (g : Given) : List Switch := (g.settings.map (·.1)).eraseDups

end Given

/-- What a run is asked to do. -/
structure Arguments where
  files : List String
  configFile : Option String
  configData : Option String
  format : Report.Format
  strict : Bool
  noWarnings : Bool
  listFiles : Bool
  deriving DecidableEq, Repr

/-- What is asked for instead of a run, if it is. -/
inductive Request where
  | version
  | help
  | run (a : Arguments)
  deriving DecidableEq, Repr

/-- Why there is no request: the command line is at fault, or one of its paths is none. -/
inductive Refusal where
  | usage (f : UsageFault)
  | path (e : FileError)
  deriving DecidableEq, Repr

namespace Request

/-- What is wrong with a path, if it is no path at all. -/
def pathFault? (path : String) : Option Refusal :=
  ((Path.textFault? path).filter (!·.isOfSystem)).map fun fault => .path ⟨fault, path⟩

/-- What is wrong with the value of an option. `isDirectory` tells whether the configuration file
is one. -/
def valueFault? (g : Given) (isDirectory : Bool) (s : Switch) : Option Refusal :=
  match s, g.value? s with
  | .format, some name =>
    if (Report.Format.ofName? name).isSome then none else some (.usage (.unknownFormat name))
  | .configFile, some path =>
    if isDirectory then some (.usage (.configIsDirectory path)) else pathFault? path
  | _, _ => none

/-- Makes a request of what is given. The values of options are looked at before the files. -/
def ofGiven (g : Given) (isDirectory : Bool) : Except Refusal Request :=
  match g.switches.find? fun s => s == .version || s == .help with
  | some .version => .ok .version
  | some _ => .ok .help
  | none =>
    match g.switches.findSome? (valueFault? g isDirectory) <|> g.files.findSome? pathFault? with
    | some f => .error f
    | none => .ok (.run
        { files := g.files
          configFile := g.value? .configFile
          configData := g.value? .configData
          format := ((g.value? .format).bind Report.Format.ofName?).getD .auto
          strict := g.has .strict
          noWarnings := g.has .noWarnings
          listFiles := g.has .listFiles })

/-- Reads a command line. -/
def ofArguments {m : Type → Type} [Monad m] (host : Host m) (args : List String) :
    m (Except Refusal Request) := do
  match Given.ofArguments args with
  | .error f => return .error (.usage f)
  | .ok g =>
    let isDirectory ← match g.value? .configFile with
      | some path => host.isDirectory path
      | none => pure false
    return ofGiven g isDirectory

end Request

end YamlStyle.Command
