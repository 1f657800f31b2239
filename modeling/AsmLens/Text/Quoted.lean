import AsmLens.Text.Printable

namespace AsmLens.Text

def hexDigit (digit : Nat) : Char :=
  "0123456789abcdef".toList.getD digit '0'

/-- The lower digits of a number in base sixteen, as many as asked for. -/
def hex : Nat → Nat → Text
  | 0, _ => []
  | width + 1, number => hex width (number / 16) ++ [hexDigit (number % 16)]

/-- Double quotes stand around a text that has a single quote and no double one. -/
def quoteMark (text : Text) : Char :=
  if text.contains '\'' && !text.contains '"' then '"' else '\''

def escaped (mark c : Char) : Text :=
  if c = mark ∨ c = '\\' then ['\\', c]
  else if c = '\n' then "\\n"
  else if c = '\r' then "\\r"
  else if c = '\t' then "\\t"
  else if isPrintable c then [c]
  else if c.toNat < 0x100 then "\\x" ++ hex 2 c.toNat
  else if c.toNat < 0x10000 then "\\u" ++ hex 4 c.toNat
  else "\\U" ++ hex 8 c.toNat

/-- A text between quotes, as messages show it: what cannot be printed is escaped. -/
def quoted (text : Text) : Text :=
  let mark := text.quoteMark
  mark :: (text.flatMap (escaped mark) ++ [mark])

/-- Several texts between quotes, in brackets. -/
def quotedList (texts : List Text) : Text :=
  '[' :: (join ", " (texts.map quoted) ++ [']'])

end AsmLens.Text
