import AsmLens.Text.Basic

namespace AsmLens.Shell

/-- The letter or the digits by which a control character is written between quotes. -/
def controlEscape (c : Char) : Text :=
  let letters : List (Char × Char) :=
    [('\x07', 'a'), ('\x08', 'b'), ('\t', 't'), ('\n', 'n'), ('\x0b', 'v'), ('\x0c', 'f'), ('\r', 'r')]
  match letters.find? fun entry => entry.1 = c with
  | some (_, letter) => ['\\', letter]
  | none =>
      let digits := Nat.toDigits 8 c.toNat
      '\\' :: List.replicate (3 - digits.length) '0' ++ digits

def isControl (c : Char) : Bool :=
  c < ' ' || c = '\x7f'

/-- The inside of single quotes, which are left for each control character and each single quote. -/
def quotedInside : Bool → Text → Text
  | _, [] => []
  | isEscaping, c :: rest =>
      if isControl c then
        (if isEscaping then "" else "'$'" : Text) ++ controlEscape c ++ quotedInside true rest
      else
        (if isEscaping then "''" else "" : Text) ++
          (if c = '\'' then "'\\''".toList else [c]) ++ quotedInside false rest

/-- A word between single quotes, or between double ones if there is a single one in it and nothing that
means something between double ones. -/
def quotedWord (word : Text) : Text :=
  let needsSingle := word.any fun c => "\"$\\\x60".toList.contains c || isControl c
  if word.contains '\'' && !needsSingle then "\"" ++ word ++ "\""
  else "'" ++ quotedInside false word ++ "'"

/-- Whether a word has to stand between quotes to be typed into a shell. -/
def needsQuotes (word : Text) : Bool :=
  let isSpecial (c : Char) : Bool :=
    isControl c || " !\"$&'()*;<=>?\x5b\\^\x60|".toList.contains c
  let isFirstSpecial := word.head?.any fun c => c = '#' || c = '~'
  word.isEmpty || isFirstSpecial || word = ['\x7b'] || word = ['\x7d'] || word.any isSpecial

/-- A word as it can be typed into a shell. -/
def typed (word : Text) : Text :=
  if needsQuotes word then quotedWord word else word

/-- The name of a file as it is shown before a colon. -/
def shownName (name : Text) : Text :=
  if needsQuotes name ∨ name.contains ':' then quotedWord name else name

/-- A word between typographic quotes. -/
def curled (word : Text) : Text :=
  let shown := word.flatMap fun c =>
    if isControl c then controlEscape c
    else if c = '\\' ∨ c = '\u2019' then ['\\', c]
    else [c]
  "\u2018" ++ shown ++ "\u2019"

end AsmLens.Shell
