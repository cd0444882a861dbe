import YamlStyle.Text.CharacterName.Asian
import YamlStyle.Text.CharacterName.European
import YamlStyle.Text.CharacterName.Latin
import YamlStyle.Text.CharacterName.Pictographs
import YamlStyle.Text.CharacterName.Symbols
import YamlStyle.Text.Class
import YamlStyle.Text.Hangul

/-!
# Names of characters

The characters that have a name. Ideographs are named by their code points and syllables by their
letters, in capitals only; other names are in letters of either case.
-/

namespace YamlStyle.Text

namespace CharacterName

/-- Names of control characters, which have no other ones, and short names of some that have. -/
def others : List (Nat × List String) := [
  (0x0, ["NULL", "NUL"]), (0x1, ["START OF HEADING", "SOH"]), (0x2, ["START OF TEXT", "STX"]),
  (0x3, ["END OF TEXT", "ETX"]), (0x4, ["END OF TRANSMISSION", "EOT"]), (0x5, ["ENQUIRY", "ENQ"]),
  (0x6, ["ACKNOWLEDGE", "ACK"]), (0x7, ["ALERT", "BEL"]), (0x8, ["BACKSPACE", "BS"]),
  (0x9, ["CHARACTER TABULATION", "HORIZONTAL TABULATION", "HT", "TAB"]),
  (0xa, ["LINE FEED", "NEW LINE", "END OF LINE", "LF", "NL", "EOL"]),
  (0xb, ["LINE TABULATION", "VERTICAL TABULATION", "VT"]), (0xc, ["FORM FEED", "FF"]),
  (0xd, ["CARRIAGE RETURN", "CR"]), (0xe, ["SHIFT OUT", "LOCKING-SHIFT ONE", "SO"]),
  (0xf, ["SHIFT IN", "LOCKING-SHIFT ZERO", "SI"]), (0x10, ["DATA LINK ESCAPE", "DLE"]),
  (0x11, ["DEVICE CONTROL ONE", "DC1"]), (0x12, ["DEVICE CONTROL TWO", "DC2"]),
  (0x13, ["DEVICE CONTROL THREE", "DC3"]), (0x14, ["DEVICE CONTROL FOUR", "DC4"]),
  (0x15, ["NEGATIVE ACKNOWLEDGE", "NAK"]), (0x16, ["SYNCHRONOUS IDLE", "SYN"]),
  (0x17, ["END OF TRANSMISSION BLOCK", "ETB"]), (0x18, ["CANCEL", "CAN"]),
  (0x19, ["END OF MEDIUM", "EOM"]), (0x1a, ["SUBSTITUTE", "SUB"]), (0x1b, ["ESCAPE", "ESC"]),
  (0x1c, ["INFORMATION SEPARATOR FOUR", "FILE SEPARATOR", "FS"]),
  (0x1d, ["INFORMATION SEPARATOR THREE", "GROUP SEPARATOR", "GS"]),
  (0x1e, ["INFORMATION SEPARATOR TWO", "RECORD SEPARATOR", "RS"]),
  (0x1f, ["INFORMATION SEPARATOR ONE", "UNIT SEPARATOR", "US"]), (0x20, ["SP"]),
  (0x7f, ["DELETE", "DEL"]), (0x80, ["PADDING CHARACTER", "PAD"]),
  (0x81, ["HIGH OCTET PRESET", "HOP"]), (0x82, ["BREAK PERMITTED HERE", "BPH"]),
  (0x83, ["NO BREAK HERE", "NBH"]), (0x84, ["INDEX", "IND"]), (0x85, ["NEXT LINE", "NEL"]),
  (0x86, ["START OF SELECTED AREA", "SSA"]), (0x87, ["END OF SELECTED AREA", "ESA"]),
  (0x88, ["CHARACTER TABULATION SET", "HORIZONTAL TABULATION SET", "HTS"]),
  (0x89, ["CHARACTER TABULATION WITH JUSTIFICATION", "HORIZONTAL TABULATION WITH JUSTIFICATION", "HTJ"]),
  (0x8a, ["LINE TABULATION SET", "VERTICAL TABULATION SET", "VTS"]),
  (0x8b, ["PARTIAL LINE FORWARD", "PARTIAL LINE DOWN", "PLD"]),
  (0x8c, ["PARTIAL LINE BACKWARD", "PARTIAL LINE UP", "PLU"]),
  (0x8d, ["REVERSE LINE FEED", "REVERSE INDEX", "RI"]),
  (0x8e, ["SINGLE SHIFT TWO", "SINGLE-SHIFT-2", "SS2"]),
  (0x8f, ["SINGLE SHIFT THREE", "SINGLE-SHIFT-3", "SS3"]),
  (0x90, ["DEVICE CONTROL STRING", "DCS"]), (0x91, ["PRIVATE USE ONE", "PRIVATE USE-1", "PU1"]),
  (0x92, ["PRIVATE USE TWO", "PRIVATE USE-2", "PU2"]), (0x93, ["SET TRANSMIT STATE", "STS"]),
  (0x94, ["CANCEL CHARACTER", "CCH"]), (0x95, ["MESSAGE WAITING", "MW"]),
  (0x96, ["START OF GUARDED AREA", "START OF PROTECTED AREA", "SPA"]),
  (0x97, ["END OF GUARDED AREA", "END OF PROTECTED AREA", "EPA"]),
  (0x98, ["START OF STRING", "SOS"]), (0x99, ["SINGLE GRAPHIC CHARACTER INTRODUCER", "SGC"]),
  (0x9a, ["SINGLE CHARACTER INTRODUCER", "SCI"]), (0x9b, ["CONTROL SEQUENCE INTRODUCER", "CSI"]),
  (0x9c, ["STRING TERMINATOR", "ST"]), (0x9d, ["OPERATING SYSTEM COMMAND", "OSC"]),
  (0x9e, ["PRIVACY MESSAGE", "PM"]), (0x9f, ["APPLICATION PROGRAM COMMAND", "APC"]),
  (0xa0, ["NBSP"]), (0xad, ["SHY"]), (0x1a2, ["LATIN CAPITAL LETTER GHA"]),
  (0x1a3, ["LATIN SMALL LETTER GHA"]), (0x34f, ["CGJ"]), (0x61c, ["ALM"]), (0x180b, ["FVS1"]),
  (0x180c, ["FVS2"]), (0x180d, ["FVS3"]), (0x180e, ["MVS"]), (0x200b, ["ZWSP"]),
  (0x200c, ["ZWNJ"]), (0x200d, ["ZWJ"]), (0x200e, ["LRM"]), (0x200f, ["RLM"]), (0x202a, ["LRE"]),
  (0x202b, ["RLE"]), (0x202c, ["PDF"]), (0x202d, ["LRO"]), (0x202e, ["RLO"]), (0x202f, ["NNBSP"]),
  (0x205f, ["MMSP"]), (0x2060, ["WJ"]), (0x2066, ["LRI"]), (0x2067, ["RLI"]), (0x2068, ["FSI"]),
  (0x2069, ["PDI"]), (0x2118, ["WEIERSTRASS ELLIPTIC FUNCTION"]), (0x2448, ["MICR ON US SYMBOL"]),
  (0x2449, ["MICR DASH SYMBOL"]),
  (0xfe18, ["PRESENTATION FORM FOR VERTICAL RIGHT WHITE LENTICULAR BRACKET"]),
  (0xfeff, ["BOM", "BYTE ORDER MARK"])]

def runs : List Run :=
  latin ++ punctuation ++ european ++ symbols ++ eastAsian ++ pictographs ++ nearEastern

/-- The ranges of ideographs that are named by their code points. -/
def ideographs : List (Nat × Nat) := [
  (0x3400, 0x4dbf), (0x4e00, 0x9fff), (0x20000, 0x2a6df), (0x2a700, 0x2b738), (0x2b740, 0x2b81d),
  (0x2b820, 0x2cea1), (0x2ceb0, 0x2ebe0), (0x30000, 0x3134a)]

/-- The ranges of ideographs that are there for the sake of other sets of characters. -/
def doubleIdeographs : List (Nat × Nat) := [(0xf900, 0xfa6d), (0xfa70, 0xfad9), (0x2f800, 0x2fa1d)]

/-- What follows a word that a name starts with. -/
def after? (word : String) (name : Text) : Option Text :=
  if word.toList.isPrefixOf name then some (name.drop word.length) else none

/-- The code point that four or five capital digits write. -/
def codePoint? (digits : Text) : Option Nat :=
  let isCapital (c : Char) : Bool := isDigit c || ('A' ≤ c && c ≤ 'F')
  if (digits.length == 4 || digits.length == 5) && digits.all isCapital then
    some (numberIn 16 digits)
  else none

def inRanges? (ranges : List (Nat × Nat)) (n : Nat) : Option Char :=
  if ranges.any fun (a, b) => a ≤ n && n ≤ b then some (Char.ofNat n) else none

/-- A character by one of the names that are not in runs, in capitals. -/
def other? (name : Text) : Option Char :=
  (others.find? fun entry => entry.2.contains (String.ofList name)).map fun entry =>
    Char.ofNat entry.1

end CharacterName

open CharacterName

/-- The character with a name. -/
def named? (name : Text) : Option Char :=
  match after? "HANGUL SYLLABLE " name, after? "CJK UNIFIED IDEOGRAPH-" name with
  | some letters, _ => Hangul.named? letters
  | _, some digits => (codePoint? digits).bind (inRanges? ideographs)
  | none, none =>
    let capital := name.map Char.toUpper
    match after? "CJK COMPATIBILITY IDEOGRAPH-" capital with
    | some digits => (codePoint? digits).bind (inRanges? doubleIdeographs)
    | none =>
      if name.isEmpty then none
      else runs.findSome? (·.named? capital) <|> other? capital

end YamlStyle.Text
