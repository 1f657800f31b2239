import AsmLens.Text.Basic

namespace AsmLens.Text

/-- The bytes of a character in UTF-8. -/
def encodeChar (c : Char) : List UInt8 :=
  let code := c.toNat
  let trail (rest : Nat) : UInt8 := (0x80 + rest % 0x40).toUInt8
  if code < 0x80 then
    [code.toUInt8]
  else if code < 0x800 then
    [(0xc0 + code / 0x40).toUInt8, trail code]
  else if code < 0x10000 then
    [(0xe0 + code / 0x1000).toUInt8, trail (code / 0x40), trail code]
  else
    [(0xf0 + code / 0x40000).toUInt8, trail (code / 0x1000), trail (code / 0x40), trail code]

def encode (text : Text) : List UInt8 :=
  text.flatMap encodeChar

def byteLength (text : Text) : Nat :=
  text.encode.length

/-- A sequence of UTF-8 that has begun: the value so far, how many bytes follow the next one, and the
bounds of the next one, which keep out overlong forms, surrogates and values past the last character. -/
structure Sequence where
  value : Nat
  remaining : Nat
  low : UInt8
  high : UInt8

/-- What a byte outside any sequence does: it is a character, it is invalid, or it begins a sequence. -/
def begin (byte : UInt8) : Text × Option Sequence :=
  let lead (offset : UInt8) (remaining : Nat) (low high : UInt8) : Text × Option Sequence :=
    ([], some ⟨(byte - offset).toNat, remaining, low, high⟩)
  if byte < 0x80 then ([Char.ofNat byte.toNat], none)
  else if byte < 0xc2 then (['\ufffd'], none)
  else if byte < 0xe0 then lead 0xc0 0 0x80 0xbf
  else if byte = 0xe0 then lead 0xe0 1 0xa0 0xbf
  else if byte = 0xed then lead 0xe0 1 0x80 0x9f
  else if byte < 0xf0 then lead 0xe0 1 0x80 0xbf
  else if byte = 0xf0 then lead 0xf0 2 0x90 0xbf
  else if byte < 0xf4 then lead 0xf0 2 0x80 0xbf
  else if byte = 0xf4 then lead 0xf0 2 0x80 0x8f
  else (['\ufffd'], none)

/-- A sequence that breaks off is one replacement character, and the byte that broke it is read anew. -/
def decodeFrom : Option Sequence → List UInt8 → Text
  | none, [] => []
  | some _, [] => ['\ufffd']
  | none, byte :: rest => (begin byte).1 ++ decodeFrom (begin byte).2 rest
  | some sequence, byte :: rest =>
      if sequence.low ≤ byte ∧ byte ≤ sequence.high then
        let value := sequence.value * 0x40 + (byte - 0x80).toNat
        match sequence.remaining with
        | 0 => Char.ofNat value :: decodeFrom none rest
        | remaining + 1 => decodeFrom (some ⟨value, remaining, 0x80, 0xbf⟩) rest
      else
        '\ufffd' :: ((begin byte).1 ++ decodeFrom (begin byte).2 rest)

/-- The text of bytes in UTF-8, with U+FFFD for each maximal part of a sequence that is not valid. -/
def decode (bytes : List UInt8) : Text :=
  decodeFrom none bytes

/-- The text of bytes that are valid UTF-8. -/
def decode? (bytes : List UInt8) : Option Text :=
  let text := decode bytes
  if text.encode = bytes then some text else none

theorem encode_append (first second : Text) :
    (first ++ second).encode = first.encode ++ second.encode := by
  simp [encode]

end AsmLens.Text
