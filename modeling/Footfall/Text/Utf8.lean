/-!
# Characters and bytes

Limits on stored text are in bytes, and texts that come out of percent-encoding are bytes first.

* `utf8Length` is the number of bytes of a list of characters.
* `boundaryFrom?` looks for a place between two characters, from a byte index downwards.
* `nextScalar` reads one character from bytes. A malformed sequence gives nothing and is left
  behind as far as it could have been the start of a character.
* `decodeStrict` reads a whole text and fails on malformed bytes; `decodeLossy` puts U+FFFD in
  their place.
-/

namespace Footfall.Text

/-- The number of bytes that a list of characters takes. -/
def utf8Length : List Char → Nat
  | [] => 0
  | c :: r => c.utf8Size + utf8Length r

/-- The number of bytes of a text. -/
def byteLength (s : String) : Nat := utf8Length s.toList

/-- The last place of a text between two characters, looked for from a byte index downwards, one
byte at a time. The search fails if it gets below index 0. -/
def boundaryFrom? (s : String) : Nat → Option s.Pos
  | 0 => s.pos? ⟨0⟩
  | i + 1 => s.pos? ⟨i + 1⟩ <|> boundaryFrom? s i

/-- How many bytes follow a leading byte, the range of the first of them, and the bits that the
leading byte contributes. -/
def leadingByte (b : Nat) : Option (Nat × Nat × Nat × Nat) :=
  if b < 0x80 then some (0, 0, 0, b)
  else if 0xC2 ≤ b ∧ b ≤ 0xDF then some (1, 0x80, 0xBF, b - 0xC0)
  else if b = 0xE0 then some (2, 0xA0, 0xBF, 0)
  else if b = 0xED then some (2, 0x80, 0x9F, 0xD)
  else if 0xE1 ≤ b ∧ b ≤ 0xEF then some (2, 0x80, 0xBF, b - 0xE0)
  else if b = 0xF0 then some (3, 0x90, 0xBF, 0)
  else if 0xF1 ≤ b ∧ b ≤ 0xF3 then some (3, 0x80, 0xBF, b - 0xF0)
  else if b = 0xF4 then some (3, 0x80, 0x8F, 4)
  else none

/-- Read `n` continuation bytes, the first of them between `lo` and `hi`. -/
def continuation (n lo hi value : Nat) : List Nat → Option Nat × List Nat
  | [] => (if n = 0 then some value else none, [])
  | b :: r =>
    match n with
    | 0 => (some value, b :: r)
    | k + 1 =>
      if lo ≤ b ∧ b ≤ hi then continuation k 0x80 0xBF (value * 64 + (b - 0x80)) r
      else (none, b :: r)

/-- Read one character; a malformed start gives `none` and is skipped. -/
def nextScalar (b : Nat) (rest : List Nat) : Option Char × List Nat :=
  match leadingByte b with
  | none => (none, rest)
  | some (n, lo, hi, value) =>
    let (v, rest) := continuation n lo hi value rest
    (v.map Char.ofNat, rest)

/-- Read bytes to the end, at most `fuel` characters of them. -/
def decodeWith (replacement : Option Char) : Nat → List Nat → Option (List Char)
  | _, [] => some []
  | 0, _ :: _ => none
  | fuel + 1, b :: r =>
    let (c, rest) := nextScalar b r
    match c <|> replacement with
    | some c => (decodeWith replacement fuel rest).map (c :: ·)
    | none => none

/-- The text that bytes encode, or nothing when they are malformed. -/
def decodeStrict (bytes : List Nat) : Option (List Char) := decodeWith none bytes.length bytes

/-- The text that bytes encode, with U+FFFD for every malformed sequence. -/
def decodeLossy (bytes : List Nat) : List Char :=
  (decodeWith (some '\uFFFD') bytes.length bytes).getD []

/-- The bytes of a list of characters. -/
def encodeUtf8 (cs : List Char) : List Nat :=
  cs.flatMap fun c => (String.utf8EncodeChar c).map UInt8.toNat

end Footfall.Text
