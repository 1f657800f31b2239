import AsmLens.Text.Blank
import AsmLens.Text.Digit

namespace AsmLens.Text

/-- How many digits a decimal number may have. -/
def digitLimit : Nat := 4300

/-- The blanks that may surround a number: all but the information separators. -/
def isNumberBlank (c : Char) : Bool :=
  isBlank c && !"\x1c\x1d\x1e\x1f".toList.contains c

/-- The digits of a number in which single underscores may stand between digits. -/
def groupedDigits? : Text → Option Text
  | [] => none
  | [c] => if isDigit c then some [c] else none
  | c :: '_' :: rest => if isDigit c then (groupedDigits? rest).map (c :: ·) else none
  | c :: rest => if isDigit c then (groupedDigits? rest).map (c :: ·) else none

def readNat? (text : Text) : Option Nat := do
  let digits ← groupedDigits? text
  if digits.length ≤ digitLimit then some (natOfDigits digits) else none

/-- Reads a decimal integer with an optional sign and blanks around it. -/
def readInt? (text : Text) : Option Int :=
  match ((text.dropWhile isNumberBlank).reverse.dropWhile isNumberBlank).reverse with
  | '+' :: digits => (readNat? digits).map Int.ofNat
  | '-' :: digits => (readNat? digits).map fun value => -Int.ofNat value
  | digits => (readNat? digits).map Int.ofNat

end AsmLens.Text
