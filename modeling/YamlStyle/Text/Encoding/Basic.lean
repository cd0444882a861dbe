import YamlStyle.Text.Class

/-!
# Decoding bytes

A decoder reads the characters at the front of some bytes, most often one. The first bytes that
cannot be read stop it, with their place and the reason.
-/

namespace YamlStyle.Text

abbrev Bytes := List UInt8

/-- Why and where bytes cannot be read: `extent` bytes from `offset` on, the first being `byte`. -/
structure Undecodable where
  codec : String
  offset : Nat
  extent : Nat
  byte : UInt8
  reason : String
  deriving DecidableEq, Repr

def Undecodable.message (u : Undecodable) : String :=
  if u.extent == 1 then
    s!"'{u.codec}' codec can't decode byte 0x" ++ hexDigits 2 u.byte.toNat ++
      s!" in position {u.offset}: {u.reason}"
  else
    s!"'{u.codec}' codec can't decode bytes in position {u.offset}-{u.offset + u.extent - 1}: {u.reason}"

/-- Bytes that cannot be read: the reason and how many they are. -/
structure Malformed where
  reason : String
  extent : Nat

/-- Reads the characters at the front of some bytes: the characters and the bytes they take. -/
abbrev Decoder := Bytes → Except Malformed (Text × Nat)

/-- Reads characters until the bytes end. `offset` is where the bytes stand in the whole. -/
def decodeFrom (codec : String) (step : Decoder) : Nat → Nat → Bytes → Except Undecodable Text
  | 0, _, _ => .ok []
  | _ + 1, _, [] => .ok []
  | fuel + 1, offset, b :: r =>
    match step (b :: r) with
    | .error m => .error ⟨codec, offset, m.extent, b, m.reason⟩
    | .ok (t, n) => (decodeFrom codec step fuel (offset + n) ((b :: r).drop n)).map (t ++ ·)

def decodeWith (codec : String) (step : Decoder) (offset : Nat) (bytes : Bytes) :
    Except Undecodable Text :=
  decodeFrom codec step bytes.length offset bytes

/-- What stands in a table where there is no character. -/
def hole : Char := '\ufffd'

/-- Why there is no text: bytes that cannot be read, or something wrong with the whole. -/
inductive DecodeFault where
  | undecodable (u : Undecodable)
  | senseless (reason : String)
  deriving DecidableEq, Repr

/-- A way to read bytes as text, and its names: in lower case, with low lines for all
punctuation. The first is the one it is reported by; the others may have points for low lines. -/
structure Encoding where
  names : List String
  decode : Bytes → Except DecodeFault Text

namespace Encoding

def name (e : Encoding) : String := e.names.headD ""

/-- An encoding whose bytes are read in one step after another. -/
def ofSteps (names : List String) (decode : Bytes → Except Undecodable Text) : Encoding :=
  ⟨names, fun bytes => (decode bytes).mapError .undecodable⟩

end Encoding

end YamlStyle.Text
