import YamlStyle.Text.Class
import YamlStyle.Text.Printable

/-!
# Quoted text

How a piece of text is shown inside a message: between single quotes, or double ones when it
holds a single quote and no double one, with what cannot be printed written as an escape.
-/

namespace YamlStyle.Text

/-- The quote that a text is shown between. -/
def quoteFor (t : Text) : Char := if t.contains '\'' && !t.contains '"' then '"' else '\''

def escapeChar (quote c : Char) : String :=
  if c == quote || c == '\\' then String.ofList ['\\', c]
  else if c == '\n' then "\\n"
  else if c == '\r' then "\\r"
  else if c == '\t' then "\\t"
  else if isPrintable c then c.toString
  else
    let n := codeOf c
    if n < 0x100 then "\\x" ++ hexDigits 2 n
    else if n < 0x10000 then "\\u" ++ hexDigits 4 n
    else "\\U" ++ hexDigits 8 n

def quoted (t : Text) : String :=
  let q := quoteFor t
  q.toString ++ String.join (t.map (escapeChar q)) ++ q.toString

/-- A character as messages show it; the end of the text is shown as the null character. -/
def quotedChar (c : Option Char) : String := quoted [c.getD '\x00']

/-- The message about halves of pairs in a text, so many from an offset on, which an encoding has
no bytes for. -/
def unencodable (codec : String) (t : Text) (offset extent : Nat) : String :=
  let place :=
    if extent == 1 then
      let c := (t[offset]?).getD '\x00'
      "character '\\u" ++ hexDigits 4 (codeOf c) ++ s!"' in position {offset}"
    else s!"characters in position {offset}-{offset + extent - 1}"
  s!"'{codec}' codec can't encode {place}: surrogates not allowed"

end YamlStyle.Text
