import YamlStyle.Host.Basic

/-!
# Folders

Files held as a value, with the questions a program asks of them answered without a machine. No
file is a link.
-/

namespace YamlStyle

/-- What is at a place: the bytes of a file, or a directory. -/
inductive FolderEntry where
  | file (bytes : Text.Bytes)
  | directory
  deriving DecidableEq, Repr

/-- The entries at absolute places, each given by its parts, and the directory that paths are
relative to. -/
structure Folder where
  entries : List (List String × FolderEntry)
  here : List String
  deriving Repr

namespace Folder

/-- What is at a place. Whatever has something below it is a directory. -/
def entry? (d : Folder) (place : List String) : Option FolderEntry :=
  match d.entries.lookup place with
  | some e => some e
  | none => if d.entries.any fun e => place.isPrefixOf e.1 then some .directory else none

/-- Follows the parts of a path; `above` has the place reached, last part first. -/
def follow (d : Folder) (above : List String) : List String → Except FileFault (List String)
  | [] =>
    match d.entry? above.reverse with
    | some _ => .ok above.reverse
    | none => .error .missing
  | p :: rest =>
    match d.entry? above.reverse with
    | none => .error .missing
    | some (.file _) => .error .aboveIsFile
    | some .directory =>
      if p == ".." then follow d above.tail rest
      else if Path.isLongName p then .error .nameTooLong
      else follow d (p :: above) rest

/-- The place that a path leads to. A path that ends in a slash leads to a directory. -/
def place (d : Folder) (path : String) : Except FileFault (List String) :=
  match Path.textFault? path with
  | some fault => .error fault
  | none =>
    if path.isEmpty then .error .missing
    else do
      let start := if path.startsWith "/" then [] else d.here.reverse
      let found ← d.follow start (Path.parts path)
      let asksDirectory := path.endsWith "/" || path.endsWith "/."
      match d.entry? found with
      | some (.file _) => if asksDirectory then .error .aboveIsFile else return found
      | _ => return found

def kind (d : Folder) (path : String) : Except FileFault FileKind := do
  match d.entry? (← d.place path) with
  | some (.file _) => return .file
  | some .directory => return .directory
  | none => .error .missing

def read (d : Folder) (path : String) : Except FileFault Text.Bytes := do
  match d.entry? (← d.place path) with
  | some (.file bytes) => return bytes
  | some .directory => .error .isDirectory
  | none => .error .missing

/-- The names just below a place, each once. -/
def names (d : Folder) (place : List String) : List String :=
  (d.entries.filterMap fun e =>
    if place.isPrefixOf e.1 then (e.1.drop place.length).head? else none).eraseDups

def list (d : Folder) (path : String) : Listing :=
  match d.place path with
  | .error _ => ⟨[], []⟩
  | .ok place =>
    let isDirectory (name : String) : Bool := d.entry? (place ++ [name]) == some .directory
    let (directories, files) := (d.names place).partition isDirectory
    ⟨directories, files⟩

/-- The host whose files are those of a folder. -/
def host (d : Folder) : Host Id where
  read path := d.read path
  kind path := d.kind path
  list path := d.list path

end Folder

end YamlStyle
