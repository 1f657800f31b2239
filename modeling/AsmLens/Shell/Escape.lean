import AsmLens.Text.Utf8

namespace AsmLens.Shell

/-- Which escapes a writer knows besides those that all of them know: characters by their two
hexadecimal digits, the double quote, the end of all output, octal digits after a zero, and
characters by their codes, where it complains about those that are not complete. -/
structure Escapes where
  readsHex : Bool
  readsQuote : Bool
  readsEnd : Bool
  skipsZero : Bool
  readsCodes : Bool := false
  deriving DecidableEq, Repr

/-- What an escape stands for: bytes, the end of all output, or that end after a complaint. -/
inductive Escaped where
  | bytes (bytes : List UInt8)
  | finish
  | broken (complaint : Text)
  deriving DecidableEq, Repr

namespace Escapes

def octalDigit? (c : Char) : Option Nat :=
  if '0' ≤ c ∧ c ≤ '7' then some (c.toNat - '0'.toNat) else none

def hexDigit? (c : Char) : Option Nat :=
  if c.isDigit then some (c.toNat - '0'.toNat)
  else if 'a' ≤ c.toLower ∧ c.toLower ≤ 'f' then some (c.toLower.toNat - 'a'.toNat + 10)
  else none

/-- A number of at most so many digits, and the text after it. -/
def number (digit? : Char → Option Nat) (base : Nat) : Nat → Nat → Text → Nat × Text
  | 0, value, text => (value, text)
  | _, value, [] => (value, [])
  | width + 1, value, c :: rest =>
      match digit? c with
      | some digit => number digit? base width (base * value + digit) rest
      | none => (value, c :: rest)

/-- The character that a letter after a backslash stands for. -/
def letter? (c : Char) : Option Char :=
  match c with
  | 'a' => some '\x07'
  | 'b' => some '\x08'
  | 'e' => some '\x1b'
  | 'f' => some '\x0c'
  | 'n' => some '\n'
  | 'r' => some '\r'
  | 't' => some '\t'
  | 'v' => some '\x0b'
  | '\\' => some '\\'
  | _ => none

def incomplete : Escaped :=
  .broken "missing hexadecimal number in escape"

/-- The character with a code of so many digits. Codes of ASCII are not written like this. -/
def character (letter : Char) (width : Nat) (text : Text) : Escaped × Text :=
  let digits := text.take width
  let (code, rest) := number hexDigit? 16 width 0 text
  if digits.length < width ∨ rest.length + width ≠ text.length then (incomplete, [])
  else if (code ≤ 0x9f ∧ !([0x24, 0x40, 0x60] : List Nat).contains code) ∨
      (0xd800 ≤ code ∧ code ≤ 0xdfff) then
    (.broken ("invalid universal character name \\" ++ letter :: digits.map Char.toLower), [])
  else if 0x10ffff < code then (.bytes (Text.encode ("\\U" ++ digits.map Char.toUpper)), rest)
  else (.bytes (Text.encodeChar (Char.ofNat code)), rest)

/-- What the text after a backslash stands for, and the rest of that text. -/
def read (escapes : Escapes) (text : Text) : Escaped × Text :=
  match text with
  | [] => (.bytes (Text.encodeChar '\\'), [])
  | c :: rest =>
      match letter? c with
      | some escaped => (.bytes (Text.encodeChar escaped), rest)
      | none =>
          if c = '"' ∧ escapes.readsQuote then (.bytes (Text.encodeChar c), rest)
          else if c = 'c' ∧ escapes.readsEnd then (.finish, [])
          else if c = 'x' ∧ escapes.readsHex ∧ (rest.head?.bind hexDigit?).isSome then
            let (value, rest) := number hexDigit? 16 2 0 rest
            (.bytes [value.toUInt8], rest)
          else if c = 'x' ∧ escapes.readsCodes then (incomplete, [])
          else if c = 'u' ∧ escapes.readsCodes then character c 4 rest
          else if c = 'U' ∧ escapes.readsCodes then character c 8 rest
          else if (octalDigit? c).isSome then
            let digits :=
              if escapes.skipsZero ∧ c = '0' ∧ (rest.head?.bind octalDigit?).isSome then rest
              else text
            let (value, rest) := number octalDigit? 8 3 0 digits
            (.bytes [value.toUInt8], rest)
          else
            (.bytes (Text.encodeChar '\\'), text)

/-- The bytes of a text whose backslashes are escapes, and how all output ends with them, if it does. As
many steps are allowed. -/
def expand (escapes : Escapes) : Nat → Text → List UInt8 × Option Escaped
  | 0, _ => ([], none)
  | _, [] => ([], none)
  | steps + 1, c :: rest =>
      let (escaped, rest) :=
        if c = '\\' then escapes.read rest else (.bytes (Text.encodeChar c), rest)
      match escaped with
      | .bytes bytes =>
          let (others, ending) := expand escapes steps rest
          (bytes ++ others, ending)
      | ending => ([], some ending)

def bytes (escapes : Escapes) (text : Text) : List UInt8 × Option Escaped :=
  escapes.expand (text.length + 1) text

end Escapes

end AsmLens.Shell
