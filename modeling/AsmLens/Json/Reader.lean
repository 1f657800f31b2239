import AsmLens.Json.Basic

namespace AsmLens.Json

def isSpace (c : Char) : Bool :=
  c = ' ' || c = '\t' || c = '\n' || c = '\r'

def skipSpaces (text : Text) : Text :=
  text.dropWhile isSpace

def hexDigit? (c : Char) : Option Nat :=
  if c.isDigit then some (c.toNat - '0'.toNat)
  else if 'a' ≤ c ∧ c ≤ 'f' then some (c.toNat - 'a'.toNat + 10)
  else if 'A' ≤ c ∧ c ≤ 'F' then some (c.toNat - 'A'.toNat + 10)
  else none

/-- The code unit that hexadecimal digits spell. -/
def unit? (digits : Text) : Option Nat :=
  digits.foldlM (fun value c => (hexDigit? c).map fun digit => 16 * value + digit) 0

/-- The character that a letter after a backslash stands for. -/
def escaped? (letter : Char) : Option Char :=
  match letter with
  | '"' => some '"'
  | '\\' => some '\\'
  | '/' => some '/'
  | 'b' => some '\x08'
  | 'f' => some '\x0c'
  | 'n' => some '\n'
  | 'r' => some '\r'
  | 't' => some '\t'
  | _ => none

/-- The code units up to the quote that closes a string, and the text after it. Controls have to be
escaped. -/
def readUnits : Text → Option (List Nat × Text)
  | [] => none
  | '"' :: rest => some ([], rest)
  | '\\' :: 'u' :: first :: second :: third :: fourth :: rest => do
      let unit ← unit? [first, second, third, fourth]
      let (units, rest) ← readUnits rest
      some (unit :: units, rest)
  | '\\' :: letter :: rest => do
      let c ← escaped? letter
      let (units, rest) ← readUnits rest
      some (c.toNat :: units, rest)
  | c :: rest =>
      if c.toNat < 0x20 then
        none
      else do
        let (units, rest) ← readUnits rest
        some (Text.unitsOf c ++ units, rest)

/-- A string whose opening quote has been read. -/
def readText (text : Text) : Option (Text × Text) := do
  let (units, rest) ← readUnits text
  let value ← Text.ofUnits? units
  some (value, rest)

/-- A whole number without a sign. Only zero itself begins with a zero. -/
def readNat (text : Text) : Option (Nat × Text) :=
  match text.takeWhile Char.isDigit with
  | [] => none
  | '0' :: _ :: _ => none
  | digits =>
      some (digits.foldl (fun value c => 10 * value + (c.toNat - '0'.toNat)) 0,
        text.dropWhile Char.isDigit)

/-- A value that has no parts. -/
def readWord (text : Text) : Option (Json × Text) :=
  match text with
  | 'n' :: 'u' :: 'l' :: 'l' :: rest => some (.null, rest)
  | 't' :: 'r' :: 'u' :: 'e' :: rest => some (.bool true, rest)
  | 'f' :: 'a' :: 'l' :: 's' :: 'e' :: rest => some (.bool false, rest)
  | '-' :: digits => (readNat digits).map fun read => (.number (-Int.ofNat read.1), read.2)
  | digits => (readNat digits).map fun read => (.number (Int.ofNat read.1), read.2)

mutual

/-- A value of at most so many parts, and the text after it. -/
def readValue : Nat → Text → Option (Json × Text)
  | 0, _ => none
  | parts + 1, input =>
      match skipSpaces input with
      | '"' :: rest => (readText rest).map fun read => (.text read.1, read.2)
      | '[' :: rest =>
          match skipSpaces rest with
          | ']' :: rest => some (.array [], rest)
          | _ => (readItems parts rest).map fun read => (.array read.1, read.2)
      | '\x7b' :: rest =>
          match skipSpaces rest with
          | '\x7d' :: rest => some (.object [], rest)
          | _ => (readFields parts rest).map fun read => (.object read.1, read.2)
      | rest => readWord rest

/-- The items of an array up to the bracket that closes it. -/
def readItems : Nat → Text → Option (List Json × Text)
  | 0, _ => none
  | parts + 1, input => do
      let (item, rest) ← readValue parts input
      match skipSpaces rest with
      | ',' :: rest => (readItems parts rest).map fun read => (item :: read.1, read.2)
      | ']' :: rest => some ([item], rest)
      | _ => none

/-- The fields of an object up to the brace that closes it. -/
def readFields : Nat → Text → Option (List (Text × Json) × Text)
  | 0, _ => none
  | parts + 1, input =>
      match skipSpaces input with
      | '"' :: rest => do
          let (key, rest) ← readText rest
          match skipSpaces rest with
          | ':' :: rest => do
              let (value, rest) ← readValue parts rest
              match skipSpaces rest with
              | ',' :: rest =>
                  (readFields parts rest).map fun read => ((key, value) :: read.1, read.2)
              | '\x7d' :: rest => some ([(key, value)], rest)
              | _ => none
          | _ => none
      | _ => none

end

/-- The value that a text in JSON spells, if all its numbers are whole. A value has fewer parts than
twice the characters of its text. -/
def read? (text : Text) : Option Json := do
  let (value, rest) ← readValue (2 * text.length + 1) text
  if (skipSpaces rest).isEmpty then some value else none

end AsmLens.Json
