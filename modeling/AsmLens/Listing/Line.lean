import AsmLens.Text.Lines

namespace AsmLens

/-- A line of a disassembly listing, and whether it holds an instruction rather than source text, a
header or nothing. -/
structure ListingLine where
  text : Text
  isInstruction : Bool
  deriving DecidableEq, Repr

namespace ListingLine

def isHexDigit (c : Char) : Bool :=
  "0123456789abcdefABCDEF".toList.contains c

/-- What follows the address of an instruction line: a colon and a blank. -/
def closesAddress : Text → Bool
  | ':' :: c :: _ => Text.isBlank c
  | _ => false

def startsWithAddress : Text → Bool
  | [] => false
  | c :: rest => isHexDigit c && closesAddress (rest.dropWhile isHexDigit)

/-- An instruction line is indented by blanks and starts with a hexadecimal address. -/
def marksInstruction : Text → Bool
  | [] => false
  | c :: rest => Text.isBlank c && startsWithAddress (rest.dropWhile Text.isBlank)

def ofText (line : Text) : ListingLine :=
  ⟨line, marksInstruction line⟩

end ListingLine

/-- The lines of a listing in order, each with its kind. -/
def Text.listingLines (listing : Text) : List ListingLine :=
  listing.lines.map ListingLine.ofText

end AsmLens
