/-!
# Reading bytes as text

Bytes are read as UTF-8. A byte that cannot begin a character, and the beginning of a character that
breaks off, are dropped. Every kind of line end becomes a line feed.
-/

namespace CodeAtlas.Text

/-- A byte in the middle of a character. -/
def isContinuation (b : UInt8) : Bool :=
  0x80 ≤ b && b ≤ 0xBF

/-- How many bytes follow a first byte, the range that the next one has to be in, and the bits that the
first one contributes. -/
def leadByte? (b : UInt8) : Option (Nat × UInt8 × UInt8 × Nat) :=
  if 0xC2 ≤ b && b ≤ 0xDF then some (1, 0x80, 0xBF, b.toNat - 0xC0)
  else if b = 0xE0 then some (2, 0xA0, 0xBF, 0)
  else if b = 0xED then some (2, 0x80, 0x9F, 0xD)
  else if 0xE1 ≤ b && b ≤ 0xEF then some (2, 0x80, 0xBF, b.toNat - 0xE0)
  else if b = 0xF0 then some (3, 0x90, 0xBF, 0)
  else if 0xF1 ≤ b && b ≤ 0xF3 then some (3, 0x80, 0xBF, b.toNat - 0xF0)
  else if b = 0xF4 then some (3, 0x80, 0x8F, 4)
  else none

/-- The character that is being read: how many bytes are missing, the range of the next one, and the
bits so far. -/
structure PartialChar where
  missing : Nat
  low : UInt8
  high : UInt8
  bits : Nat

/-- Reads the first byte of a character; a byte that cannot be one is dropped. -/
def startChar (b : UInt8) : Except Char (Option PartialChar) :=
  if b < 0x80 then .error (Char.ofNat b.toNat)
  else .ok ((leadByte? b).map fun (n, low, high, bits) => ⟨n, low, high, bits⟩)

/-- Reads bytes; `state` is the character that is being read. -/
def decodeFrom : Option PartialChar → List UInt8 → List Char
  | _, [] => []
  | none, b :: bs =>
    match startChar b with
    | .error c => c :: decodeFrom none bs
    | .ok state => decodeFrom state bs
  | some p, b :: bs =>
    if p.low ≤ b && b ≤ p.high then
      let bits := 64 * p.bits + (b.toNat - 0x80)
      if p.missing ≤ 1 then Char.ofNat bits :: decodeFrom none bs
      else decodeFrom (some ⟨p.missing - 1, 0x80, 0xBF, bits⟩) bs
    else
      -- The character breaks off, and this byte may begin another one.
      match startChar b with
      | .error c => c :: decodeFrom none bs
      | .ok state => decodeFrom state bs

/-- The text that bytes stand for. -/
def decode (bytes : List UInt8) : List Char :=
  decodeFrom none bytes

/-- A text in which all line ends are line feeds. -/
def unifyLineEnds : List Char → List Char
  | [] => []
  | '\r' :: '\n' :: cs => '\n' :: unifyLineEnds cs
  | '\r' :: cs => '\n' :: unifyLineEnds cs
  | c :: cs => c :: unifyLineEnds cs

end CodeAtlas.Text
