import YamlStyle.Config.Bundled
import YamlStyle.Config.Entry
import YamlStyle.Host.Basic

/-!
# Loading configurations

A configuration is read together with those that it extends, one after another, and the entries
of all its rules are looked at. Patterns among the options of rules are taken as they are; it is the
rules that read them.
-/

namespace YamlStyle

structure Config where
  /-- The entries of all rules as written. -/
  entries : List (String × Yaml.Value)
  /-- The rules in the order of their entries; none for a rule that is off. -/
  rules : List (String × Option ConfiguredRule)
  /-- The files to leave alone. -/
  ignore : Option PathPatterns
  /-- The files to look at in a directory. -/
  yamlFiles : PathPatterns
  locale : Option String
  deriving Repr

namespace Config

def origin : String := "yamlsieve.config"

/-- The files to look at if nothing is said of them. -/
def usualFiles : PathPatterns :=
  PathPatterns.ofLines (["*.yaml", "*.yml", ".yamllint"].map String.toList)

/-- The configuration that says nothing. -/
def nothing : Config := ⟨[], [], none, usualFiles, none⟩

/-- How many configurations one may extend, one after another. -/
def longestChain : Nat := 200

/-- What loading needs: the files of a host, the encoding that is asked for, and the
directory that the bundled configurations are said to be in. -/
structure Loader (m : Type → Type) where
  host : Host m
  asked : Text.Asked
  bundled : String

namespace Loader

variable {m : Type → Type} [Monad m] (L : Loader m)

/-- The patterns in some files. -/
def ignoreFiles (names : List String) : LoggedT m Failure PathPatterns :=
  let told (f : ReadFailure) : Failure :=
    match f with
    | .file e =>
      if e.fault.isOfSystem then .fault (.cannotReadIgnore e.message) else .unreachable e
    | .undecodable (.undecodable u) => .fault (.cannotReadIgnore u.message)
    | .undecodable f => .undecodable f
  ((L.host.lines L.asked names).mapError told).bind fun ls => pure (PathPatterns.ofLines ls)

/-- The text of a configuration at a path; `shown` is how messages call it. -/
def textOf (shown : String) (bytes : Except FileFault Text.Bytes) (path : String) :
    LoggedT m Failure Text := do
  LoggedT.debug origin s!"loading config file {shown}"
  match bytes with
  | .error fault =>
    let e : FileError := ⟨fault, path⟩
    LoggedT.fail (if fault.isOfSystem then .fault (.cannotRead shown e.message) else .unreachable e)
  | .ok bytes =>
    (LoggedT.ofLogged (Text.decode L.asked bytes)).mapError fun f =>
      match f with
      | .undecodable u => .fault (.cannotRead shown u.message)
      | f => .undecodable f

/-- The text of a configuration file. -/
def fileText (path : String) : LoggedT m Failure Text := do
  let plain := Path.plain path
  L.textOf path (← LoggedT.ask (L.host.read plain)) plain

/-- The text of the configuration that another extends: a bundled one if the name has no slash
and there is one, else a file. It is an error to ask for a bundled one by too long a name. -/
def baseText (name : String) : LoggedT m Failure Text :=
  let hasSlash := name.toList.contains '/' || name.toList.contains '\\'
  let file := name ++ ".yaml"
  let bundled := Path.join L.bundled file
  match if hasSlash then none else Bundled.find? name with
  | some t => L.textOf bundled (.ok t.toUTF8.toList) bundled
  | none =>
    let isAskable := (Path.textFault? file).all FileFault.isOfSystem
    if !hasSlash && isAskable && Path.isLongName file then
      LoggedT.fail (.unreachable ⟨.nameTooLong, bundled⟩)
    else L.fileText (Path.plain name)

/-- The rule that an entry turns on; none if the entry turns it off. -/
def configure (rule : Rule) (entry : Yaml.Value) : LoggedT m Failure (Option ConfiguredRule) :=
  let told (f : EntryFault) : Failure :=
    if f == .unwritableOption then .unwritable else .fault (.entry rule.name f)
  if Entry.isOff entry then pure none
  else
    match Entry.settings? entry with
    | none => LoggedT.fail (told .notEntry)
    | some pairs => do
      let source ← LoggedT.ofLogged (Logged.ofExcept ((Entry.ignoreSource pairs).mapError told))
      let ignore ← match source with
        | .none => pure none
        | .lines ls => pure (some (PathPatterns.ofLines ls))
        | .files names => pure (some (← L.ignoreFiles names))
      let configured := (Entry.configure rule pairs ignore).mapError told
      return some (← LoggedT.ofLogged (Logged.ofExcept configured))

/-- The rules that the entries of a configuration turn on or off. -/
def configureAll :
    List (String × Yaml.Value) → LoggedT m Failure (List (String × Option ConfiguredRule))
  | [] => pure []
  | (name, entry) :: rest =>
    match Rule.ofName? name with
    | none => LoggedT.fail (.fault (.unknownRule name))
    | some rule => do
      let first ← L.configure rule entry
      return (name, first) :: (← configureAll rest)

/-- The configuration that a document makes of the one it extends. -/
def complete (base : Config) (doc : Document) : LoggedT m Failure Config := do
  let entries := mergeEntries base.entries doc.rules
  if doc.ignore.isSome && doc.ignoreFromFile.isSome then
    LoggedT.fail (.fault .bothIgnores)
  else
    let ignore ← match doc.ignoreFromFile, doc.ignore with
      | some names, _ => pure (some (← L.ignoreFiles names))
      | none, some ls => pure (some (PathPatterns.ofLines ls))
      | none, none => pure base.ignore
    let yamlFiles := (doc.yamlFiles.map PathPatterns.ofLines).getD base.yamlFiles
    let rules ← L.configureAll entries
    return ⟨entries, rules, ignore, yamlFiles, doc.locale <|> base.locale⟩

/-- The configuration that a text is, with at most `fuel` others that it extends. -/
def ofText (fuel : Nat) (t : Text) : LoggedT m Failure Config := do
  let doc ← LoggedT.ofLogged (Logged.ofExcept (Document.ofText t))
  match doc.base.filter (· != "") with
  | none => L.complete nothing doc
  | some name =>
    match fuel with
    | 0 => LoggedT.fail .endless
    | fuel + 1 =>
      let base ← ofText fuel (← L.baseText name)
      L.complete base doc

/-- The configuration that a text is. -/
def ofContent (t : Text) : LoggedT m Failure Config := L.ofText longestChain t

/-- The configuration in a file. -/
def ofFile (path : String) : LoggedT m Failure Config := do
  L.ofContent (← L.fileText path)

/-- The configuration where none is given. -/
def usual : LoggedT m Failure Config := L.ofContent "extends: default".toList

/-- The configuration that a text is, or that a file has; not both may be given. -/
def load (content : Option Text) (file : Option String) : LoggedT m Failure Config :=
  match content, file with
  | some _, some _ => LoggedT.fail (.fault .twoSources)
  | some t, none => L.ofContent t
  | none, some path => L.ofFile path
  | none, none => L.usual

end Loader

/-- The rules that are on for a file, in the order of their entries. -/
def rulesFor (c : Config) (path : Option String) : List ConfiguredRule :=
  (c.rules.filterMap (·.2)).filter fun r =>
    !(path.any fun path => r.ignore.any (·.isMatch path.toList))

/-- Whether a file is to be left alone. -/
def isIgnored (c : Config) (path : String) : Bool := c.ignore.any (·.isMatch path.toList)

/-- Whether a file in a directory is one to look at, going by its name. -/
def isYamlFile (c : Config) (path : String) : Bool :=
  c.yamlFiles.isMatch (Path.lastName path).toList

end Config

end YamlStyle
