import YamlStyle.Text.Basic
import YamlStyle.Text.Encoding.Basic
import YamlStyle.Text.Encoding.Detect
import YamlStyle.Text.Quoted

/-!
# Hosts

What a program asks of the machine it runs on: the files there are and what is in them. A path
is relative to the directory the program runs in, unless it starts with a slash. The lines of some
files are those of one after another, each file decoded by itself.
-/

/-! ## Files -/

namespace YamlStyle

/-- Why a file cannot be read. -/
inductive FileFault where
  | missing | aboveIsFile | isDirectory | nameTooLong
  /-- The path has a NUL character, which no path may have. -/
  | nulInPath
  /-- The path has halves of pairs, which no bytes stand for: so many from an offset on. -/
  | unencodable (offset extent : Nat)
  deriving DecidableEq, Repr

namespace FileFault

/-- What the system says of a fault, with its number; nothing if it is not even asked. -/
def report? : FileFault → Option (Nat × String)
  | missing => some (2, "No such file or directory")
  | aboveIsFile => some (20, "Not a directory")
  | isDirectory => some (21, "Is a directory")
  | nameTooLong => some (36, "File name too long")
  | nulInPath | unencodable .. => none

/-- Whether it is the system that finds the fault. -/
def isOfSystem (f : FileFault) : Bool := f.report?.isSome

end FileFault

structure FileError where
  fault : FileFault
  path : String
  deriving DecidableEq, Repr

def FileError.message (e : FileError) : String :=
  match e.fault.report?, e.fault with
  | some (number, reason), _ => s!"[Errno {number}] {reason}: {Text.quoted e.path.toList}"
  | none, .unencodable offset extent => Text.unencodable "utf-8" e.path.toList offset extent
  | none, _ => "embedded null byte"

/-- What a path leads to. -/
inductive FileKind where
  | file | directory
  deriving DecidableEq, Repr

/-- The names in a directory, those of directories and those of files. -/
structure Listing where
  directories : List String
  files : List String
  deriving DecidableEq, Repr

structure Host (m : Type → Type) where
  read : String → m (Except FileFault Text.Bytes)
  kind : String → m (Except FileFault FileKind)
  list : String → m Listing

namespace Host

variable {m : Type → Type} [Monad m] (host : Host m)

def isDirectory (path : String) : m Bool := return (← host.kind path).toOption == some .directory

/-- Whether a path leads to a file. It is an error to ask with a name that is too long, and none
to ask for a file that is missing. -/
def isFile (path : String) : m (Except FileError Bool) := do
  match ← host.kind path with
  | .ok kind => return .ok (kind == .file)
  | .error .nameTooLong => return .error ⟨.nameTooLong, path⟩
  | .error _ => return .ok false

end Host

namespace Path

/-- The parts of a path, without empty ones and single dots. -/
def parts (path : String) : List String :=
  ((Text.splitOn '/' path.toList).map String.ofList).filter fun p => p != "" && p != "."

/-- What a path starts with: a slash for an absolute one. Two slashes, and no more, are kept. -/
def root (path : String) : String :=
  match path.toList with
  | '/' :: '/' :: '/' :: _ => "/"
  | '/' :: '/' :: _ => "//"
  | '/' :: _ => "/"
  | _ => ""

/-- A path in its plainest form, which is a dot for a path without parts. -/
def plain (path : String) : String :=
  let shown := root path ++ "/".intercalate (parts path)
  if shown.isEmpty then "." else shown

/-- The path of a name in a directory. -/
def join (directory name : String) : String :=
  if name.startsWith "/" then name
  else if directory.isEmpty || directory.endsWith "/" then directory ++ name
  else directory ++ "/" ++ name

/-- What follows the last slash. -/
def lastName (path : String) : String :=
  String.ofList ((path.toList.reverse.takeWhile (· != '/')).reverse)

/-- Drops the parts that a later `..` takes back, and a `..` above the root. -/
def collapse (above : List String) : List String → List String
  | [] => above.reverse
  | ".." :: rest => collapse above.tail rest
  | p :: rest => collapse (p :: above) rest

/-- The most bytes of a name, and of a path. -/
def longestName : Nat := 255
def longestPath : Nat := 4095

/-- The number of bytes that a character takes in a path. The low halves from U+DC80 to U+DCFF
stand for single bytes that are part of no character. -/
def charSize (c : Char) : Nat := if Text.isByteHalf c then 1 else c.utf8Size

def size (path : String) : Nat := path.toList.foldl (fun n c => n + charSize c) 0

/-- What is wrong with the characters of a path, whatever there is where it leads to. -/
def textFault? (path : String) : Option FileFault :=
  let t := path.toList
  match t.findIdx? fun c => Text.isHalf c && !Text.isByteHalf c with
  | some i => some (.unencodable i ((t.drop i).takeWhile Text.isHalf).length)
  | none =>
    if t.contains '\x00' then some .nulInPath
    else if longestPath < size path then some .nameTooLong
    else none

/-- Whether a name is too long for a file. -/
def isLongName (name : String) : Bool := longestName < size name

end Path

end YamlStyle

/-! ## Lines of files -/

namespace YamlStyle

/-- Why the text of a file is not to be had. -/
inductive ReadFailure where
  | file (e : FileError)
  | undecodable (f : Text.DecodeFailure)
  deriving DecidableEq, Repr

def ReadFailure.message : ReadFailure → String
  | file e => e.message
  | undecodable f => f.message

namespace Host

variable {m : Type → Type} [Monad m]

/-- The text of a file. `asked` tells the encoding that is asked for. -/
def text (host : Host m) (asked : Text.Asked) (path : String) :
    LoggedT m ReadFailure Text := do
  match ← LoggedT.ask (host.read path) with
  | .error fault => LoggedT.fail (.file ⟨fault, path⟩)
  | .ok bytes => (LoggedT.ofLogged (Text.decode asked bytes)).mapError .undecodable

/-- The lines of some files. -/
def lines (host : Host m) (asked : Text.Asked) : List String → LoggedT m ReadFailure (List Text)
  | [] => pure []
  | path :: paths => do
    let t ← host.text asked path
    return Text.lines t ++ (← lines host asked paths)

end Host

end YamlStyle
