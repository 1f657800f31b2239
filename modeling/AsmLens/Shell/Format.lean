import AsmLens.Shell.Escape
import AsmLens.Shell.Outcome
import AsmLens.Shell.Quoting
import AsmLens.Shell.Real

namespace AsmLens.Shell

/-- Whether a command is a part of the shell or a program of its own: the two word their complaints
differently and know different escapes. -/
inductive Dialect where
  | builtin
  | program
  deriving DecidableEq, Repr

/-- A number of columns in a conversion, which an argument may give. -/
inductive Measurement where
  | fixed (columns : Nat)
  | argument
  deriving DecidableEq, Repr

/-- A place for an argument in a format. -/
structure Conversion where
  flags : Text
  width : Measurement
  precision : Option Measurement
  letter : Char
  deriving DecidableEq, Repr

inductive FormatPart where
  | bytes (bytes : List UInt8)
  | conversion (conversion : Conversion)
  | unknown (directive : Text)
  | unfinished (directive : Text)
  | broken (complaint : Text)
  | finish
  deriving DecidableEq, Repr

namespace FormatPart

def measurement (text : Text) : Measurement × Text :=
  match text with
  | '*' :: rest => (.argument, rest)
  | _ =>
      let digits := text.takeWhile Char.isDigit
      (.fixed (digits.foldl (fun value c => 10 * value + (c.toNat - '0'.toNat)) 0),
        text.drop digits.length)

def letters : Dialect → List Char
  | .builtin => "bcsdiouxXaAeEfFgG".toList
  | .program => "bqcsdiouxXaAeEfFgG".toList

/-- Whether a letter can have these flags and this precision. The program alone looks at that. -/
def allows (dialect : Dialect) (letter : Char) (flags : Text) (precision : Option Measurement) : Bool :=
  let among (letters : String) : Bool := letters.toList.contains letter
  let allowsFlag (flag : Char) : Bool :=
    if flag = '0' then among "diouxXaAeEfFgG"
    else if flag = '#' then among "oxXaAeEfFgG"
    else if flag = '+' ∨ flag = ' ' then among "diaAeEfFgG"
    else if flag = '\'' then among "diufFgG"
    else true
  dialect = .builtin || (flags.all allowsFlag && (precision.isNone || letter ≠ 'c'))

/-- The conversion that the text after a percent sign writes, and the text after it. -/
def conversionOf (dialect : Dialect) (text : Text) : FormatPart × Text :=
  let flags := text.takeWhile fun c =>
    "#-+ 0".toList.contains c || (dialect = .program && c = '\'')
  let (width, afterWidth) := measurement (text.drop flags.length)
  let (precision, rest) : Option Measurement × Text :=
    match afterWidth with
    | '.' :: digits =>
        let (found, rest) := measurement digits
        (some found, rest)
    | rest => (none, rest)
  let isModifier (c : Char) : Bool := dialect = .program && "lLhjtz".toList.contains c
  match rest.dropWhile isModifier with
  | [] => (.unfinished ('%' :: text), [])
  | letter :: after =>
      let isPlain := text.head? = some letter
      let isKnown := (letters dialect).contains letter && allows dialect letter flags precision &&
        (isPlain || letter ≠ 'b' && letter ≠ 'q' || dialect = .builtin)
      if isKnown then (.conversion ⟨flags, width, precision, letter⟩, after)
      else (.unknown ('%' :: text.take (text.length - after.length)), after)

def escapes : Dialect → Escapes
  | .builtin => ⟨false, false, false, false, false⟩
  | .program => ⟨true, true, true, false, true⟩

/-- The parts of a format, for which as many steps are allowed. -/
def read (dialect : Dialect) (readsEscapes : Bool) : Nat → Text → List FormatPart
  | 0, _ => []
  | _, [] => []
  | steps + 1, '%' :: '%' :: rest =>
      .bytes (Text.encodeChar '%') :: read dialect readsEscapes steps rest
  | steps + 1, '%' :: rest =>
      let (part, rest) := conversionOf dialect rest
      part :: read dialect readsEscapes steps rest
  | steps + 1, c :: rest =>
      if c = '\\' ∧ readsEscapes then
        match (escapes dialect).read rest with
        | (.bytes found, rest) => .bytes found :: read dialect readsEscapes steps rest
        | (.finish, _) => [.finish]
        | (.broken complaint, _) => [.broken complaint]
      else
        .bytes (Text.encodeChar c) :: read dialect readsEscapes steps rest

def ofText (dialect : Dialect) (readsEscapes : Bool) (text : Text) : List FormatPart :=
  read dialect readsEscapes (text.length + 1) text

end FormatPart

/-- An integer at the front of an argument: its value, and what is left of the argument. The base shows in
its first digits. -/
def leadingInt (argument : Text) : Int × Text :=
  let unsigned (text : Text) : Nat × Text :=
    let digits (digit? : Char → Option Nat) (base : Nat) (text : Text) : Nat × Text :=
      Escapes.number digit? base text.length 0 text
    match text with
    | '0' :: 'x' :: rest | '0' :: 'X' :: rest =>
        if (rest.head?.bind Escapes.hexDigit?).isSome then digits Escapes.hexDigit? 16 rest
        else (0, text.tail)
    | '0' :: rest => digits Escapes.octalDigit? 8 rest
    | _ =>
        digits (fun c => if c.isDigit then some (c.toNat - '0'.toNat) else none) 10 text
  let startsWithDigit (text : Text) : Bool := text.head?.any Char.isDigit
  match argument.dropWhile (" \t\n\r\x0b\x0c".toList.contains) with
  | '-' :: rest =>
      if startsWithDigit rest then
        let (value, left) := unsigned rest
        (-Int.ofNat value, left)
      else
        (0, argument)
  | '+' :: rest =>
      if startsWithDigit rest then
        let (value, left) := unsigned rest
        (Int.ofNat value, left)
      else
        (0, argument)
  | rest =>
      if startsWithDigit rest then
        let (value, left) := unsigned rest
        (Int.ofNat value, left)
      else
        (0, argument)

/-- A format on its way through its arguments. Complaints begin with a label. -/
structure Formatter where
  dialect : Dialect
  label : Text
  arguments : List Text
  outcome : Outcome := {}
  hasEnded : Bool := false

namespace Formatter

def put (formatter : Formatter) (bytes : List UInt8) : Formatter :=
  { formatter with
    outcome := ⟨formatter.outcome.written ++ [(.output, bytes)], formatter.outcome.status⟩ }

def complain (formatter : Formatter) (message : Text) (status : Nat) : Formatter :=
  let line := (formatter.label ++ message ++ "\n").encode
  { formatter with outcome := ⟨formatter.outcome.written ++ [(.errors, line)], status⟩ }

/-- Takes the next argument. -/
def take (formatter : Formatter) : Option Text × Formatter :=
  (formatter.arguments.head?, { formatter with arguments := formatter.arguments.tail })

def complainAbout (formatter : Formatter) (argument forShell forProgram : Text) : Formatter :=
  match formatter.dialect with
  | .builtin => formatter.complain (argument ++ ": " ++ forShell) 1
  | .program => formatter.complain ("\u2018" ++ argument ++ "\u2019: " ++ forProgram) 1

/-- How many bits of a real number are kept. -/
def realBits : Dialect → Nat
  | .builtin => 53
  | .program => 64

/-- The code of a character in an argument. The shell knows bytes only. -/
def characterCode (dialect : Dialect) (c : Char) : Nat :=
  match dialect with
  | .builtin => ((Text.encodeChar c).headD 0).toNat
  | .program => c.toNat

/-- Takes a number from the next argument. A quote gives the code of the character after it. -/
def takeInt (low high : Int) (formatter : Formatter) : Int × Formatter :=
  match formatter.take with
  | (none, after) => (0, after)
  | (some argument, after) =>
      let quotes (c : Char) : Bool := c = '\'' || c = '"'
      match argument with
      | [] => (0, after)
      | first :: rest =>
          match quotes first, rest with
          | true, c :: _ => (characterCode formatter.dialect c, after)
          | true, [] =>
              (0, match formatter.dialect with
                | .builtin => after
                | .program => after.complainAbout argument [] "expected a numeric value")
          | false, _ =>
              let (value, left) := leadingInt argument
              let bounded := max low (min high value)
              if left = argument then
                (0, after.complainAbout argument "expected numeric value"
                  "expected a numeric value")
              else if left ≠ [] then
                (bounded, after.complainAbout argument "not completely converted"
                  "value not completely converted")
              else if bounded ≠ value then
                (bounded, after.complainAbout argument "Numerical result out of range"
                  "Numerical result out of range")
              else
                (bounded, after)

/-- Takes a real number from the next argument. -/
def takeReal (formatter : Formatter) : Real × Formatter :=
  let bits := realBits formatter.dialect
  let zero : Real := ⟨false, .zero⟩
  match formatter.take with
  | (none, after) | (some [], after) => (zero, after)
  | (some (first :: rest), after) =>
      let argument := first :: rest
      match (first = '\'' || first = '"'), rest with
      | true, c :: _ =>
          (⟨false, .ofQuotient bits (characterCode formatter.dialect c) 1⟩, after)
      | _, _ =>
          match Real.leading bits argument with
          | none =>
              (zero, after.complainAbout argument "expected numeric value"
                "expected a numeric value")
          | some (value, left) =>
              let isHuge := isBeyond formatter.dialect value
              let value := if isHuge then { value with magnitude := .infinite } else value
              if left ≠ [] then
                (value, after.complainAbout argument "not completely converted"
                  "value not completely converted")
              else if isHuge then
                (value, after.complainAbout argument "Numerical result out of range"
                  "Numerical result out of range")
              else
                (value, after)
where
  /-- Whether a number is greater than any that the machine keeps. -/
  isBeyond (dialect : Dialect) (value : Real) : Bool :=
    match value.magnitude with
    | .finite significand exponent =>
        (match dialect with | .builtin => 1024 | .program => 16384 : Int) ≤
          exponent + significand.log2
    | _ => false

def measure (measurement : Measurement) (formatter : Formatter) : Int × Formatter :=
  match measurement with
  | .fixed columns => (columns, formatter)
  | .argument => takeInt (-2147483648) 2147483647 formatter

/-- Fills up a field with blanks. -/
def pad (flags : Text) (width : Int) (bytes : List UInt8) : List UInt8 :=
  let blanks := List.replicate (width.natAbs - bytes.length) 32
  if flags.contains '-' ∨ width < 0 then bytes ++ blanks else blanks ++ bytes

/-- The digits of a number with its sign and zeros. -/
def number (flags : Text) (width : Int) (precision : Option Int) (sign : Text) (magnitude : Text) :
    List UInt8 :=
  let zeros (count : Nat) : Text := List.replicate count '0'
  let digits :=
    match precision with
    | some places => zeros (places.toNat - magnitude.length) ++ magnitude
    | none =>
        if flags.contains '0' ∧ !flags.contains '-' then
          zeros (width.toNat - sign.length - magnitude.length) ++ magnitude
        else
          magnitude
  pad flags width (sign ++ digits).encode

def signOf (flags : Text) (value : Int) : Text :=
  if value < 0 then "-"
  else if flags.contains '+' then "+"
  else if flags.contains ' ' then " "
  else ""

/-- A real number in the place of a conversion. -/
def real (bits : Nat) (flags : Text) (width : Int) (precision : Option Int) (letter : Char)
    (value : Real) : List UInt8 :=
  let sign := signOf flags (if value.isNegative then -1 else 0)
  let text := value.magnitude.text bits letter (precision.map Int.toNat) (flags.contains '#')
  let isHex := letter.toLower = 'a' && text.take 1 = "0"
  let (sign, digits) := if isHex then (sign ++ text.take 2, text.drop 2) else (sign, text)
  let flags := if text.any Char.isDigit then flags else flags.filter (· ≠ '0')
  number flags width none sign digits

/-- A format with a real number in each of its places. -/
def ofReal (parts : List FormatPart) (value : Real) : List UInt8 :=
  parts.flatMap fun
    | .bytes bytes => bytes
    | .conversion conversion =>
        let fixed : Measurement → Int
          | .fixed columns => columns
          | .argument => 0
        real 64 conversion.flags (fixed conversion.width) (conversion.precision.map fixed)
          conversion.letter value
    | _ => []

def signedLow : Int := -9223372036854775808
def signedHigh : Int := 9223372036854775807
def wordSize : Int := 18446744073709551616

def apply (formatter : Formatter) (conversion : Conversion) : Formatter :=
  let flags := conversion.flags
  let (width, formatter) := measure conversion.width formatter
  let (precision, formatter) : Option Int × Formatter :=
    match conversion.precision with
    | none => (none, formatter)
    | some measurement =>
        let (places, formatter) := measure measurement formatter
        (if places < 0 then none else some places, formatter)
  let cut (bytes : List UInt8) : List UInt8 :=
    match precision with
    | some places => bytes.take places.toNat
    | none => bytes
  if conversion.letter = 's' ∨ conversion.letter = 'q' then
    let (argument, after) := formatter.take
    let text := argument.getD []
    let shown := if conversion.letter = 'q' then typed text else text
    after.put (pad flags width (cut shown.encode))
  else if conversion.letter = 'b' then
    let (argument, after) := formatter.take
    let isProgram := formatter.dialect = .program
    let escapes : Escapes := ⟨isProgram, isProgram, true, true, isProgram⟩
    let (bytes, ending) := escapes.bytes (argument.getD [])
    let written := after.put (pad flags width (cut bytes))
    match ending with
    | some (.broken complaint) => { written.complain complaint 1 with hasEnded := true }
    | ending => { written with hasEnded := ending.isSome }
  else if conversion.letter = 'c' then
    let (argument, after) := formatter.take
    after.put (pad flags width [((argument.getD []).encode).headD 0])
  else if "aAeEfFgG".toList.contains conversion.letter then
    let (value, after) := takeReal formatter
    after.put (real (realBits formatter.dialect) flags width precision conversion.letter value)
  else if conversion.letter = 'd' ∨ conversion.letter = 'i' then
    let (value, after) := takeInt signedLow signedHigh formatter
    after.put (number flags width precision (signOf flags value) (Text.ofNat value.natAbs))
  else
    let (value, after) := takeInt (1 - wordSize) (wordSize - 1) formatter
    let word := (value % wordSize).toNat
    let isAlternate := flags.contains '#' && word ≠ 0
    if conversion.letter = 'o' then
      let digits := Nat.toDigits 8 word
      after.put (number flags width precision [] (if isAlternate then '0' :: digits else digits))
    else if conversion.letter = 'u' then
      after.put (number flags width precision [] (Text.ofNat word))
    else
      let isUpper := conversion.letter = 'X'
      let digits := (Nat.toDigits 16 word).map fun c => if isUpper then c.toUpper else c
      let sign : Text := if isAlternate then (if isUpper then "0X" else "0x") else ""
      after.put (number flags width precision sign digits)

def step (formatter : Formatter) (part : FormatPart) : Formatter :=
  if formatter.hasEnded then
    formatter
  else
    match part with
    | .bytes bytes => formatter.put bytes
    | .conversion conversion => formatter.apply conversion
    | .finish => { formatter with hasEnded := true }
    | .broken complaint => { formatter.complain complaint 1 with hasEnded := true }
    | .unknown directive =>
        let failed :=
          match formatter.dialect with
          | .builtin => formatter.complain (directive ++ ": invalid directive") 2
          | .program => formatter.complain (directive ++ ": invalid conversion specification") 1
        { failed with hasEnded := true }
    | .unfinished directive =>
        let failed :=
          match formatter.dialect with
          | .builtin => formatter.complain "missing format character" 2
          | .program => formatter.complain (directive ++ ": invalid conversion specification") 1
        { failed with hasEnded := true }

/-- Goes through a format until no argument is left. -/
def run (parts : List FormatPart) : Nat → Formatter → Formatter
  | 0, formatter => formatter
  | rounds + 1, formatter =>
      let after := parts.foldl step formatter
      if after.hasEnded ∨ after.arguments.isEmpty then after
      else if after.arguments.length = formatter.arguments.length then
        match formatter.dialect with
        | .builtin => after
        | .program =>
            after.complain ("warning: ignoring excess arguments, starting with \u2018" ++
              after.arguments.headD [] ++ "\u2019") after.outcome.status
      else run parts rounds after

end Formatter

/-- Writes arguments in a format. The shell does so after all complaints. -/
def printf (dialect : Dialect) (label : Text) (arguments : List Text) : Outcome :=
  let write (format : Text) (arguments : List Text) : Outcome :=
    ((FormatPart.ofText dialect true format |> Formatter.run) (arguments.length + 1)
      { dialect, label, arguments }).outcome
  match dialect, arguments with
  | .builtin, ['-', '-'] :: format :: arguments => (write format arguments).errorsFirst
  | .builtin, [] | .builtin, [['-', '-']] =>
      .ofError (label ++ "usage: printf format [arg ...]\n") 2
  | .builtin, ('-' :: letter :: _) :: _ =>
      .ofError (label ++ "Illegal option -" ++ [letter] ++ "\n") 2
  | .builtin, format :: arguments => (write format arguments).errorsFirst
  | .program, ['-', '-'] :: format :: arguments => write format arguments
  | .program, [] | .program, [['-', '-']] =>
      .ofError (label ++ "missing operand\nTry 'printf --help' for more information.\n") 1
  | .program, format :: arguments => write format arguments

end AsmLens.Shell
