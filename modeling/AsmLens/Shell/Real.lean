import AsmLens.Text.Basic

namespace AsmLens.Shell

/-- A real number as a machine keeps it: a significand times a power of two, or something that is no
number any more. -/
inductive Magnitude where
  | finite (significand : Nat) (exponent : Int)
  | infinite
  | notANumber
  deriving DecidableEq

structure Real where
  isNegative : Bool
  magnitude : Magnitude
  deriving DecidableEq

/-- The nearest whole number to a quotient. A half goes to the even neighbour. -/
def roundedQuotient (numerator denominator : Nat) : Nat :=
  let quotient := numerator / denominator
  let twice := 2 * (numerator % denominator)
  if denominator < twice ∨ (twice = denominator ∧ quotient % 2 = 1) then quotient + 1 else quotient

namespace Magnitude

def zero : Magnitude :=
  .finite 0 0

/-- The nearest magnitude to a quotient whose significand has at most so many bits. -/
def ofQuotient (bits numerator denominator : Nat) : Magnitude :=
  if numerator = 0 then zero
  else
    let shift : Int := bits + denominator.log2 - numerator.log2
    let scale (shift : Int) : Nat :=
      roundedQuotient (numerator * Nat.pow 2 shift.toNat) (denominator * Nat.pow 2 (-shift).toNat)
    let shift := if Nat.pow 2 bits ≤ scale shift then shift - 1 else shift
    .finite (scale shift) (-shift)

/-- The quotient that a magnitude is exactly. -/
def quotient (significand : Nat) (exponent : Int) : Nat × Nat :=
  (significand * Nat.pow 2 exponent.toNat, (Nat.pow 2 (-exponent).toNat))

/-- The digits with so many of them behind the point. -/
def fixedText (numerator denominator places : Nat) (keepsPoint : Bool) : Text :=
  let digits := Text.ofNat (roundedQuotient (numerator * Nat.pow 10 places) denominator)
  let padded := List.replicate (places + 1 - digits.length) '0' ++ digits
  let whole := padded.take (padded.length - places)
  if places = 0 then whole ++ if keepsPoint then "." else ""
  else whole ++ "." ++ padded.drop (padded.length - places)

/-- The digits of a number and its exponent, where one digit stands before the point and so many behind
it. -/
def decimal (numerator denominator places : Nat) : Nat × Int :=
  if numerator = 0 then (0, 0)
  else
    let scaled (exponent : Int) : Nat :=
      let shift : Int := places - exponent
      roundedQuotient (numerator * Nat.pow 10 shift.toNat) (denominator * Nat.pow 10 (-shift).toNat)
    let isBelow (exponent : Int) : Bool :=
      numerator * Nat.pow 10 (-exponent).toNat < denominator * Nat.pow 10 exponent.toNat
    let estimate : Int := (Text.ofNat numerator).length - (Text.ofNat denominator).length
    let exponent := if isBelow estimate then estimate - 1 else estimate
    let digits := scaled exponent
    if Nat.pow 10 (places + 1) ≤ digits then (digits / 10, exponent + 1) else (digits, exponent)

def exponentText (exponent : Int) (letter : Char) : Text :=
  let digits := Text.ofNat exponent.natAbs
  letter :: (if exponent < 0 then '-' else '+') ::
    List.replicate (2 - digits.length) '0' ++ digits

def scientificText (numerator denominator places : Nat) (letter : Char) (keepsPoint : Bool) : Text :=
  let (value, exponent) := decimal numerator denominator places
  let digits := Text.ofNat value
  let padded := digits ++ List.replicate (places + 1 - digits.length) '0'
  padded.take 1 ++ (if places = 0 then (if keepsPoint then "." else "" : Text)
    else "." ++ padded.drop 1) ++ exponentText exponent letter

/-- Text without the zeros at its end, and without a point that these leave there. -/
def trimmed (text : Text) : Text :=
  if text.contains '.' then
    let kept := text.reverse.dropWhile (· = '0')
    (if kept.head? = some '.' then kept.tail else kept).reverse
  else
    text

/-- The digits with the exponent where it is far from zero, and positional otherwise. -/
def generalText (numerator denominator precision : Nat) (letter : Char) (keepsPoint : Bool) : Text :=
  let significant := if precision = 0 then 1 else precision
  let (_, exponent) := decimal numerator denominator (significant - 1)
  let trim (text : Text) : Text := if keepsPoint then text else trimmed text
  if exponent < -4 ∨ (significant : Int) ≤ exponent then
    let text := scientificText numerator denominator (significant - 1) letter keepsPoint
    let mantissa := text.takeWhile (· ≠ letter)
    trim mantissa ++ text.drop mantissa.length
  else
    trim (fixedText numerator denominator ((significant : Int) - 1 - exponent).toNat keepsPoint)

/-- The digits to the base sixteen, of which the one before the point takes so many bits, and the
exponent of two. -/
def binaryText (bits significand : Nat) (exponent : Int) (places? : Option Nat) (keepsPoint : Bool) :
    Text :=
  let leadBits := if bits % 4 = 0 then 4 else bits % 4
  let allPlaces := (bits - leadBits) / 4
  let shift := bits - 1 - significand.log2
  let whole := significand * Nat.pow 2 shift
  let places := min (places?.getD allPlaces) allPlaces
  let digits := Nat.toDigits 16 (roundedQuotient whole (Nat.pow 16 (allPlaces - places)))
  let fraction :=
    if places?.isSome then digits.drop 1 ++ List.replicate (places?.getD 0 - places) '0'
    else ((digits.drop 1).reverse.dropWhile (· = '0')).reverse
  let power := if significand = 0 then 0 else exponent - shift + 4 * (allPlaces : Int)
  "0x" ++ digits.take 1 ++ (if fraction.isEmpty && !keepsPoint then ("" : Text) else ".") ++ fraction ++
    "p" ++ (if power < 0 then ("-" : Text) else "+") ++ Text.ofNat power.natAbs

/-- The text of a magnitude of so many bits for the letter of a conversion. -/
def text (bits : Nat) (magnitude : Magnitude) (letter : Char) (precision? : Option Nat)
    (keepsPoint : Bool) : Text :=
  let cased (text : Text) : Text := if letter.isUpper then text.map Char.toUpper else text
  let precision := precision?.getD 6
  match magnitude with
  | .infinite => cased "inf"
  | .notANumber => cased "nan"
  | .finite significand exponent =>
      if letter.toLower = 'a' then
        cased (binaryText bits significand exponent precision? keepsPoint)
      else
      let (numerator, denominator) := quotient significand exponent
      let marker := if letter.isUpper then 'E' else 'e'
      if letter.toLower = 'f' then fixedText numerator denominator precision keepsPoint
      else if letter.toLower = 'e' then
        scientificText numerator denominator precision marker keepsPoint
      else generalText numerator denominator precision marker keepsPoint

end Magnitude

namespace Real

def digitValue? (base : Nat) (c : Char) : Option Nat :=
  let value :=
    if c.isDigit then c.toNat - '0'.toNat
    else if c.isAlpha then c.toLower.toNat - 'a'.toNat + 10
    else base
  if value < base then some value else none

/-- The digits at the front of a text, with or without a point: their value, how many of them stand behind the
point, and the text after them. -/
def leadingDigits (base : Nat) (text : Text) : Option (Nat × Nat × Text) :=
  let isDigit (c : Char) : Bool := (digitValue? base c).isSome
  let value (digits : Text) : Nat :=
    digits.foldl (fun value c => base * value + (digitValue? base c).getD 0) 0
  let whole := text.takeWhile isDigit
  let rest := text.drop whole.length
  let fraction := if rest.head? = some '.' then rest.tail.takeWhile isDigit else []
  let left := if rest.head? = some '.' then rest.drop (fraction.length + 1) else rest
  if whole.isEmpty ∧ fraction.isEmpty then none
  else some (value (whole ++ fraction), fraction.length, left)

/-- The exponent behind one of two letters, and the text after it. -/
def leadingExponent (letter : Char) (text : Text) : Int × Text :=
  match text with
  | c :: rest =>
      let (isNegative, digits) : Bool × Text :=
        match rest with
        | '-' :: digits => (true, digits)
        | '+' :: digits => (false, digits)
        | digits => (false, digits)
      let shown := digits.takeWhile Char.isDigit
      if c.toLower = letter ∧ !shown.isEmpty then
        let value : Int :=
          shown.foldl (fun value c => 10 * value + ((c.toNat - '0'.toNat : Nat) : Int)) 0
        (if isNegative then -value else value, digits.drop shown.length)
      else
        (0, text)
  | [] => (0, [])

/-- The greatest exponent of ten that is told apart from all greater ones. -/
def exponentLimit : Int := 5000

/-- A magnitude at the front of a text, rounded to so many bits, and the text after it. -/
def leadingMagnitude (bits : Nat) (text : Text) : Option (Magnitude × Text) :=
  let startsWith (word : Text) : Bool := (text.take word.length).map Char.toLower = word
  if startsWith "infinity" then some (.infinite, text.drop 8)
  else if startsWith "inf" then some (.infinite, text.drop 3)
  else if startsWith "nan" then some (.notANumber, text.drop 3)
  else
    let scaled (base : Nat) (value : Nat) (exponent : Int) : Magnitude :=
      let exponent := max (-exponentLimit) (min exponentLimit exponent)
      .ofQuotient bits (value * Nat.pow base exponent.toNat) (Nat.pow base (-exponent).toNat)
    let plain : Option (Magnitude × Text) :=
      (leadingDigits 10 text).map fun (value, places, rest) =>
        let (exponent, rest) := leadingExponent 'e' rest
        (scaled 10 value (exponent - places), rest)
    if startsWith "0x" then
      match leadingDigits 16 (text.drop 2) with
      | some (value, places, rest) =>
          let (exponent, rest) := leadingExponent 'p' rest
          some (scaled 2 value (exponent - 4 * places), rest)
      | none => plain
    else
      plain

/-- A number at the front of a text behind blanks and a sign, and the text after it. -/
def leading (bits : Nat) (text : Text) : Option (Real × Text) :=
  match text.dropWhile (" \t\n\r\x0b\x0c".toList.contains) with
  | '-' :: rest => (leadingMagnitude bits rest).map fun (found, rest) => (⟨true, found⟩, rest)
  | '+' :: rest => (leadingMagnitude bits rest).map fun (found, rest) => (⟨false, found⟩, rest)
  | rest => (leadingMagnitude bits rest).map fun (found, rest) => (⟨false, found⟩, rest)

/-- The number that a machine keeps in these bits. -/
def ofFloat (value : Float) : Real :=
  let bits : Nat := value.toBits.toNat
  let fraction : Nat := bits % Nat.pow 2 52
  let exponent : Nat := bits / Nat.pow 2 52 % Nat.pow 2 11
  let magnitude : Magnitude :=
    if exponent = 2047 then if fraction = 0 then .infinite else .notANumber
    else if exponent = 0 then .finite fraction (-1074)
    else .finite (fraction + Nat.pow 2 52) ((exponent : Int) - 1075)
  ⟨bits / Nat.pow 2 63 = 1, magnitude⟩

end Real

end AsmLens.Shell
