import AsmLens.Text.Utf8

namespace AsmLens.Text

/-- A character for a byte that is part of no character. -/
def strayChar (byte : UInt8) : Char :=
  Char.ofNat (0x10fe00 + byte.toNat)

/-- The byte that a character stands for, if it is none of its own. -/
def strayByte? (c : Char) : Option UInt8 :=
  if 0x10fe80 ≤ c.toNat ∧ c.toNat ≤ 0x10feff then some (c.toNat - 0x10fe00).toUInt8 else none

/-- Reads on in a sequence of UTF-8 whose bytes so far are held, the last one first. -/
def ofOctetsFrom : Option Sequence → List UInt8 → List UInt8 → Text
  | none, _, [] => []
  | some _, held, [] => (held.map strayChar).reverse
  | none, _, byte :: rest =>
      match begin byte with
      | (_, some sequence) => ofOctetsFrom (some sequence) [byte] rest
      | (_, none) =>
          (if byte < 0x80 then Char.ofNat byte.toNat else strayChar byte) :: ofOctetsFrom none [] rest
  | some sequence, held, byte :: rest =>
      if sequence.low ≤ byte ∧ byte ≤ sequence.high then
        let value := sequence.value * 0x40 + (byte - 0x80).toNat
        match sequence.remaining with
        | 0 => Char.ofNat value :: ofOctetsFrom none [] rest
        | remaining + 1 =>
            ofOctetsFrom (some ⟨value, remaining, 0x80, 0xbf⟩) (byte :: held) rest
      else
        (held.map strayChar).reverse ++
          match begin byte with
          | (_, some sequence) => ofOctetsFrom (some sequence) [byte] rest
          | (_, none) =>
              (if byte < 0x80 then Char.ofNat byte.toNat else strayChar byte) ::
                ofOctetsFrom none [] rest

/-- The text of bytes in UTF-8 from which they can be told again: bytes that are part of no character
have characters of their own. -/
def ofOctets (bytes : List UInt8) : Text :=
  ofOctetsFrom none [] bytes

def toOctets (text : Text) : List UInt8 :=
  text.flatMap fun c =>
    match strayByte? c with
    | some byte => [byte]
    | none => encodeChar c

end AsmLens.Text
