import YamlStyle.Journal
import YamlStyle.Text.Encoding.CodePage
import YamlStyle.Text.Encoding.Escaped
import YamlStyle.Text.Encoding.Shifting
import YamlStyle.Text.Encoding.Utf

/-!
# Choosing an encoding

Encodings are asked for by name, or told by the first bytes of a stream.
-/

/-!
## Encodings by name, and by their first bytes

The encodings that can be asked for by name, and the rules that tell the encoding of a YAML
stream from its first bytes: a byte order mark, or where the zero bytes of an ASCII character are.
-/

namespace YamlStyle.Text.Encoding

def littleMark16 : Bytes := [0xff, 0xfe]
def bigMark16 : Bytes := [0xfe, 0xff]
def littleMark32 : Bytes := [0xff, 0xfe, 0, 0]
def bigMark32 : Bytes := [0, 0, 0xfe, 0xff]
def mark8 : Bytes := [0xef, 0xbb, 0xbf]

def startsWith (mark bytes : Bytes) : Bool := bytes.take mark.length == mark

/-! ### Unicode -/

def utf8 : Encoding :=
  ofSteps ["utf_8", "u8", "utf", "utf8", "utf8_ucs2", "utf8_ucs4", "cp65001"] Utf8.decode

/-- UTF-8 that may start with a mark. -/
def utf8Marked : Encoding :=
  ofSteps ["utf_8_sig"] fun bytes =>
    Utf8.decode (if startsWith mark8 bytes then bytes.drop 3 else bytes)

/-- UTF-16 in the order that a mark tells, else the little order. -/
def utf16 : Encoding :=
  ofSteps ["utf_16", "u16", "utf16"] fun bytes =>
    if startsWith bigMark16 bytes then Utf16.decode .big 2 (bytes.drop 2)
    else if startsWith littleMark16 bytes then Utf16.decode .little 2 (bytes.drop 2)
    else Utf16.decode .little 0 bytes

def utf16Big : Encoding :=
  ofSteps ["utf_16_be", "unicodebigunmarked", "utf_16be"] (Utf16.decode .big 0)

def utf16Little : Encoding :=
  ofSteps ["utf_16_le", "unicodelittleunmarked", "utf_16le"] (Utf16.decode .little 0)

/-- UTF-32 in the order that a mark tells, else the little order. -/
def utf32 : Encoding :=
  ofSteps ["utf_32", "u32", "utf32"] fun bytes =>
    if startsWith bigMark32 bytes then Utf32.decode .big 4 (bytes.drop 4)
    else if startsWith littleMark32 bytes then Utf32.decode .little 4 (bytes.drop 4)
    else Utf32.decode .little 0 bytes

def utf32Big : Encoding := ofSteps ["utf_32_be", "utf_32be"] (Utf32.decode .big 0)

def utf32Little : Encoding := ofSteps ["utf_32_le", "utf_32le"] (Utf32.decode .little 0)

def utf7 : Encoding := ofSteps ["utf_7", "u7", "utf7", "unicode_1_1_utf_7"] Utf7.decode

def unicode : List Encoding :=
  [utf8, utf8Marked, utf16, utf16Big, utf16Little, utf32, utf32Big, utf32Little, utf7]

/-! ### Other encodings -/

def decodeAscii : Decoder
  | [] => .ok ([], 0)
  | b :: _ =>
    if b < 0x80 then .ok ([Char.ofNat b.toNat], 1) else .error ⟨"ordinal not in range(128)", 1⟩

def ascii : Encoding :=
  ofSteps ["ascii", "646", "ansi_x3.4_1968", "ansi_x3_4_1968", "ansi_x3.4_1986", "cp367", "csascii",
    "ibm367", "iso646_us", "iso_646.irv_1991", "iso_ir_6", "us", "us_ascii"]
    (decodeWith "ascii" decodeAscii 0)

def latin1 : Encoding :=
  ofSteps ["latin_1", "8859", "charmap", "cp819", "csisolatin1", "ibm819", "iso8859", "iso8859_1",
    "iso_8859_1", "iso_8859_1_1987", "iso_ir_100", "l1", "latin", "latin1"]
    fun bytes => .ok (bytes.map fun b => Char.ofNat b.toNat)

/-- The encoding that reads nothing. -/
def undefined : Encoding := ⟨["undefined"], fun _ => .error (.senseless "undefined encoding")⟩

def codePages : List Encoding :=
  (CodePage.Iso8859.all ++ CodePage.Windows.all ++ CodePage.Dos.all ++ CodePage.Ebcdic.all ++
    CodePage.Macintosh.all ++ CodePage.Koi8.all).map CodePage.encoding

def all : List Encoding :=
  unicode ++ [ascii, latin1, undefined, ofSteps ["unicode_escape"] Escaped.decode,
    ofSteps ["raw_unicode_escape"] Escaped.decodeAllRaw, ⟨["punycode"], Punycode.decode⟩,
    ⟨["idna"], Punycode.decodeDomain⟩] ++ codePages ++ Chinese.all ++
    Japanese.all ++ Korean.all ++ Shifting.all

/-- The names of what turns bytes into bytes, or text into text, and is no encoding of text. -/
def nonText : List (List String) := [
  ["base64_codec", "base64", "base_64"], ["bz2_codec", "bz2"], ["hex_codec", "hex"],
  ["quopri_codec", "quopri", "quoted_printable", "quotedprintable"], ["rot_13", "rot13"],
  ["uu_codec", "uu"], ["zlib_codec", "zip", "zlib"]]

/-! ### Looking up -/

/-- A name with a low line for each run of punctuation inside it. -/
def plainName (s : String) : String :=
  let isPart (c : Char) : Bool := c.isAlphanum || c == '.'
  "_".intercalate ((Text.words (!isPart ·) s.toList).map String.ofList)

/-- Whether a plain name is one of the names of something. -/
def isNamed (wanted : String) (names : List String) : Bool :=
  names.contains wanted ||
    names.tail.contains (String.ofList (wanted.toList.map fun c => if c == '.' then '_' else c))

def ofName? (s : String) : Option Encoding := all.find? (isNamed (plainName s.toLower) ·.names)

/-- Whether a name is that of no encoding of text. -/
def isNonText (s : String) : Bool := nonText.any (isNamed (plainName s.toLower))

/-- The encoding of a YAML stream. -/
def detect (bytes : Bytes) : Encoding :=
  let zeros : Bytes := [0, 0, 0]
  if startsWith bigMark32 bytes then utf32
  else if startsWith zeros bytes && 4 ≤ bytes.length then utf32Big
  else if startsWith littleMark32 bytes then utf32
  else if startsWith zeros (bytes.drop 1) then utf32Little
  else if startsWith bigMark16 bytes then utf16
  else if startsWith [0] bytes && 2 ≤ bytes.length then utf16Big
  else if startsWith littleMark16 bytes then utf16
  else if startsWith [0] (bytes.drop 1) then utf16Little
  else if startsWith mark8 bytes then utf8Marked
  else utf8

end YamlStyle.Text.Encoding

/-!
## Decoding a stream

The text of a YAML stream, by the encoding that its first bytes show or by one asked for.
-/

namespace YamlStyle.Text

inductive DecodeFailure where
  | undecodable (u : Undecodable)
  | unknownEncoding (name : String)
  /-- The name is that of no encoding of text. -/
  | nonText (name : String)
  | nulInName
  /-- The bytes as a whole make no sense in an encoding. -/
  | senseless (name reason : String)
  deriving DecidableEq, Repr

/-- How much of a name is shown. -/
def shownLength : Nat := 400

def DecodeFailure.message : DecodeFailure → String
  | undecodable u => u.message
  | unknownEncoding name => s!"unknown encoding: {name}"
  | nonText name =>
    let shown := String.ofList (name.toList.take shownLength)
    s!"'{shown}' is not a text encoding; use codecs.decode() to handle arbitrary codecs"
  | nulInName => "embedded null character"
  | senseless name reason => s!"decoding with '{name}' codec failed (UnicodeError: {reason})"

/-- The warning that an encoding has been asked for. -/
def overrideRecord : Record :=
  ⟨.warning, "yamlsieve.decoder",
    "YAMLSIEVE_FILE_ENCODING is meant for temporary workarounds. It may be removed in a future version of yamlsieve."⟩

/-- The name of the encoding that settings ask for, if they ask for one, or what in them cannot be
read; they are read again, with the records of that, for each stream. -/
abbrev Asked := Logged Undecodable (Option String)

/-- The name of the encoding of some bytes. An empty name asks for nothing. -/
def encodingName (asked : Asked) (bytes : Bytes) : Logged DecodeFailure String := do
  let override ← asked.mapError .undecodable
  match override.filter (· != "") with
  | some name => do
    Logged.note overrideRecord
    return name
  | none => return (Encoding.detect bytes).name

/-- Decodes bytes by the name of an encoding. No bytes are no text in any encoding. -/
def decodeAs (name : String) (bytes : Bytes) : Except DecodeFailure Text :=
  if name.toList.contains '\x00' then .error .nulInName
  else if bytes.isEmpty then .ok []
  else
    match Encoding.ofName? name with
    | some e =>
      (e.decode bytes).mapError fun f =>
        match f with
        | .undecodable u => .undecodable u
        | .senseless reason => .senseless name reason
    | none => .error (if Encoding.isNonText name then .nonText name else .unknownEncoding name)

/-- The text of a stream. -/
def decode (asked : Asked) (bytes : Bytes) : Logged DecodeFailure Text := do
  let name ← encodingName asked bytes
  Logged.ofExcept (decodeAs name bytes)

end YamlStyle.Text
