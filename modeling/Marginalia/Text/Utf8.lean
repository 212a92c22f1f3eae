import Marginalia.Text.Basic

/-!
# Bytes

Files and file names are bytes; texts are written to them in UTF-8.  Reading is a machine that takes
one byte at a time: it either completes a character, waits for more bytes of one, or finds that what it
was waiting for does not come.  In the last case the bytes since the last character, as far as they
could have begun one, are one invalid part.

A text can be read from any bytes, with a replacement character for each invalid part.  That the bytes
were valid is known only to the reader that refuses invalid parts.
-/

namespace Marginalia

/-- A sequence of bytes. -/
abbrev Bytes := List UInt8

namespace Utf8

/-- The bytes of a text. -/
def encode (text : Text) : Bytes :=
  text.flatMap String.utf8EncodeChar

/-- A character that has begun: how many bytes it still needs, the range of the next one, and the
number made of the bytes so far. -/
structure Partial where
  needed : Nat
  low : Nat
  high : Nat
  value : Nat
  deriving DecidableEq, Repr

/-- A part of a byte sequence is a character or invalid. -/
abbrev Part := Option Char

/-- Read the first byte of a character. -/
def first (byte : UInt8) : List Part × Option Partial :=
  let n := byte.toNat
  if n < 0x80 then ([some (Char.ofNat n)], none)
  else if n < 0xC2 then ([none], none)
  else if n < 0xE0 then ([], some ⟨1, 0x80, 0xBF, n - 0xC0⟩)
  else if n = 0xE0 then ([], some ⟨2, 0xA0, 0xBF, 0⟩)
  else if n = 0xED then ([], some ⟨2, 0x80, 0x9F, n - 0xE0⟩)
  else if n < 0xF0 then ([], some ⟨2, 0x80, 0xBF, n - 0xE0⟩)
  else if n = 0xF0 then ([], some ⟨3, 0x90, 0xBF, 0⟩)
  else if n < 0xF4 then ([], some ⟨3, 0x80, 0xBF, n - 0xF0⟩)
  else if n = 0xF4 then ([], some ⟨3, 0x80, 0x8F, n - 0xF0⟩)
  else ([none], none)

/-- Read a byte that belongs to a character that has begun. -/
def Partial.extend (started : Partial) (byte : UInt8) : List Part × Option Partial :=
  let value := 64 * started.value + byte.toNat % 64
  if started.needed ≤ 1 then ([some (Char.ofNat value)], none)
  else ([], some ⟨started.needed - 1, 0x80, 0xBF, value⟩)

/-- Read a byte.  A byte that does not belong to the character that has begun begins another one. -/
def step : Option Partial → UInt8 → List Part × Option Partial
  | none, byte => first byte
  | some started, byte =>
    if started.low ≤ byte.toNat ∧ byte.toNat ≤ started.high then started.extend byte
    else
      let (parts, next) := first byte
      (none :: parts, next)

/-- The parts of a byte sequence that continues a character that has begun. -/
def partsFrom : Option Partial → Bytes → List Part
  | none, [] => []
  | some _, [] => [none]
  | started, byte :: rest =>
    let (parts, next) := step started byte
    parts ++ partsFrom next rest

/-- The characters and the invalid parts of a byte sequence. -/
def parts (bytes : Bytes) : List Part :=
  partsFrom none bytes

/-- Stands for an invalid part. -/
def replacement : Char := Char.ofNat 0xFFFD

/-- The text of a byte sequence, with a replacement character for each invalid part. -/
def decodeLossy (bytes : Bytes) : Text :=
  (parts bytes).map (·.getD replacement)

/-- The text of a byte sequence that has no invalid part. -/
def decode? (bytes : Bytes) : Option Text :=
  (parts bytes).mapM id

end Utf8

end Marginalia
