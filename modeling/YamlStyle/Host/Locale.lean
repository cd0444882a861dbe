import YamlStyle.Host.Variables
import YamlStyle.Text.Quoted

/-!
# Locales

The locales that put text in the order of its code points: the plain one, and the one that goes
with UTF-8. A locale may be named for each category by itself, and an empty name leaves it to the
variables of the environment.
-/

namespace YamlStyle.Locale

/-- Why a locale cannot be set. -/
inductive Fault where
  | unsupported
  | nulInName
  /-- The name has halves of pairs, which no bytes stand for: so many from an offset on. -/
  | unencodable (name : String) (offset extent : Nat)
  deriving DecidableEq, Repr

def Fault.message : Fault → String
  | unsupported => "unsupported locale setting"
  | nulInName => "embedded null character"
  | unencodable name offset extent => Text.unencodable "utf-8" name.toList offset extent

def categories : List String :=
  ["LC_CTYPE", "LC_NUMERIC", "LC_TIME", "LC_COLLATE", "LC_MONETARY", "LC_MESSAGES", "LC_PAPER",
    "LC_NAME", "LC_ADDRESS", "LC_TELEPHONE", "LC_MEASUREMENT", "LC_IDENTIFICATION"]

/-- The most bytes of a name. -/
def longest : Nat := 255

/-- Whether a set of characters is UTF-8 by its name, in any case. Characters that occur in no such
name are passed over. -/
def isUtf8 (charset : Text) : Bool :=
  let isPart (c : Char) : Bool :=
    Text.isAsciiLetter c || Text.isDigit c || "_-.,:".toList.contains c
  ["utf8", "utf-8"].contains (String.ofList (charset.filter isPart)).toLower

/-- Whether a name is that of a language, perhaps a territory, and a set of characters, where the
language is none and the characters are those of UTF-8. What follows an at sign does not count. -/
def isPlainUtf8 (name : Text) : Bool :=
  match name with
  | 'C' :: r =>
    let afterTerritory :=
      if r.head? == some '_' then r.dropWhile fun c => c != '.' && c != '@' else r
    match afterTerritory with
    | '.' :: charset => isUtf8 (charset.takeWhile (· != '@'))
    | _ => false
  | _ => false

def isKnown (name : String) : Bool :=
  name == "C" || name == "POSIX" ||
    (name.utf8ByteSize ≤ longest && !name.contains '/' && isPlainUtf8 name.toList)

/-- The name of the locale of a category in an environment. -/
def nameIn (vars : Environment) (category : String) : String :=
  ((vars.filled? "LC_ALL" <|> vars.filled? category <|> vars.filled? "LANG")).getD "C"

/-- The names that clauses give to categories; none for a category that there is not. What follows
the last clause does not count. -/
def clauses? : List Text → Option (List (String × String))
  | [] => some []
  | clause :: rest =>
    let category := String.ofList (clause.takeWhile (· != '='))
    if !clause.contains '=' then some []
    else if categories.contains category then
      (clauses? rest).map fun given =>
        (category, String.ofList ((clause.dropWhile (· != '=')).drop 1)) :: given
    else none

/-- Whether a locale can be set for a category by a name. -/
def isKnownFor (vars : Environment) (category name : String) : Bool :=
  isKnown (if name.isEmpty then nameIn vars category else name)

/-- Whether a locale can be set by a name. One with semicolons has a clause for each category. -/
def isSupported (vars : Environment) (name : String) : Bool :=
  if name.contains ';' then
    match clauses? (Text.splitOn ';' name.toList) with
    | none => false
    | some given => categories.all fun c => (given.reverse.lookup c).any (isKnownFor vars c)
  else categories.all fun c => isKnownFor vars c name

/-- What is wrong with a locale, if it cannot be set. -/
def fault? (vars : Environment) (name : String) : Option Fault :=
  let t := name.toList
  match t.findIdx? Text.isHalf with
  | some i => some (.unencodable name i ((t.drop i).takeWhile Text.isHalf).length)
  | none =>
    if t.contains '\x00' then some .nulInName
    else if isSupported vars name then none
    else some .unsupported

end YamlStyle.Locale
