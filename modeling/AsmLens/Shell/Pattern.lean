import AsmLens.Text.Basic

namespace AsmLens.Shell

/-- A part of a pattern: a character, any one of a set, or any text. -/
inductive PatternPart where
  | exactly (c : Char)
  | oneOf (isNegated : Bool) (ranges : List (Char × Char))
  | anything
  deriving DecidableEq, Repr

/-- A character of a word, and whether it was quoted. -/
abbrev MarkedChar := Char × Bool

namespace PatternPart

/-- Every character is between these two. -/
def anyChar : PatternPart :=
  .oneOf true []

def accepts : PatternPart → Char → Bool
  | .exactly wanted, c => wanted = c
  | .oneOf isNegated ranges, c => ranges.any (fun range => range.1 ≤ c && c ≤ range.2) != isNegated
  | .anything, _ => false

/-- The ranges of the classes that have names. -/
def classes : List (Text × List (Char × Char)) := [
  ("alpha", [('A', 'Z'), ('a', 'z')]),
  ("digit", [('0', '9')]),
  ("alnum", [('0', '9'), ('A', 'Z'), ('a', 'z')]),
  ("upper", [('A', 'Z')]),
  ("lower", [('a', 'z')]),
  ("space", [('\t', '\r'), (' ', ' ')]),
  ("blank", [('\t', '\t'), (' ', ' ')]),
  ("cntrl", [('\x00', '\x1f'), ('\x7f', '\x7f')]),
  ("print", [(' ', '~')]),
  ("graph", [('!', '~')]),
  ("punct", [('!', '/'), (':', '@'), ('\x5b', '\x60'), ('\x7b', '~')]),
  ("xdigit", [('0', '9'), ('A', 'F'), ('a', 'f')])]

/-- The ranges of a class that is written between colons, and how many characters it takes. -/
def class? (text : List MarkedChar) : Option (List (Char × Char) × Nat) :=
  match text with
  | ('\x5b', false) :: (':', _) :: rest =>
      let name := (rest.takeWhile fun marked => marked.1 ≠ ':').map Prod.fst
      match rest.drop name.length, classes.find? fun entry => entry.1 = name with
      | (':', _) :: ('\x5d', _) :: _, some (_, found) => some (found, name.length + 4)
      | _, _ => none
  | _ => none

/-- The ranges between brackets up to the closing one, which can be the first of them itself. As many steps
are allowed. -/
def ranges : Nat → Bool → List (Char × Char) → List MarkedChar →
    Option (List (Char × Char) × List MarkedChar)
  | 0, _, _, _ => none
  | _, _, _, [] => none
  | steps + 1, isFirst, found, (c, isQuoted) :: rest =>
      if c = '\x5d' ∧ !isQuoted ∧ !isFirst then
        some (found, rest)
      else if let some (members, length) := class? ((c, isQuoted) :: rest) then
        ranges steps false (found ++ members) (rest.drop (length - 1))
      else
        match rest with
        | ('-', false) :: (last, lastQuoted) :: rest =>
            if last = '\x5d' ∧ !lastQuoted then some (found ++ [(c, c), ('-', '-')], rest)
            else ranges steps false (found ++ [(c, last)]) rest
        | rest => ranges steps false (found ++ [(c, c)]) rest

/-- The parts of a pattern, for which as many steps are allowed. -/
def read : Nat → List MarkedChar → List PatternPart
  | 0, _ => []
  | _, [] => []
  | steps + 1, (c, isQuoted) :: rest =>
      if isQuoted then .exactly c :: read steps rest
      else if c = '*' then .anything :: read steps rest
      else if c = '?' then anyChar :: read steps rest
      else if c = '\x5b' then
        let (isNegated, inside) : Bool × List MarkedChar :=
          match rest with
          | ('!', false) :: inside => (true, inside)
          | inside => (false, inside)
        match ranges (inside.length + 1) true [] inside with
        | some (found, rest) => .oneOf isNegated found :: read steps rest
        | none => .exactly c :: read steps rest
      else .exactly c :: read steps rest

end PatternPart

abbrev Pattern := List PatternPart

namespace Pattern

def ofMarked (text : List MarkedChar) : Pattern :=
  PatternPart.read (text.length + 1) text

/-- A text as a pattern in which a backslash takes the next character as it is, and a circumflex negates
as an exclamation mark does. -/
def ofEscaped (text : Text) : Pattern :=
  ofMarked (marked text)
where
  marked : Text → List MarkedChar
    | '\\' :: c :: rest => (c, true) :: marked rest
    | '\x5b' :: '^' :: rest => ('\x5b', false) :: ('!', false) :: marked rest
    | c :: rest => (c, false) :: marked rest
    | [] => []

def suffixes : Text → List Text
  | [] => [[]]
  | c :: rest => (c :: rest) :: suffixes rest

def covers : Pattern → Text → Bool
  | [], text => text.isEmpty
  | .anything :: parts, text => (suffixes text).any fun rest => covers parts rest
  | part :: parts, c :: rest => part.accepts c && covers parts rest
  | _ :: _, [] => false

/-- The text without what the pattern covers at its start. -/
def cutStart (pattern : Pattern) (longest : Bool) (text : Text) : Text :=
  let ends := (suffixes text).filter fun rest =>
    pattern.covers (text.take (text.length - rest.length))
  (if longest then ends.getLast? else ends.head?).getD text

/-- The text without what the pattern covers at its end. -/
def cutEnd (pattern : Pattern) (longest : Bool) (text : Text) : Text :=
  let ends := (suffixes text).filter pattern.covers
  match (if longest then ends.head? else ends.getLast?) with
  | some covered => text.take (text.length - covered.length)
  | none => text

/-- Texts without what the pattern covers at the start of the first one. If it can cover all of that, the
others go, too. -/
def cutStartOfAll (pattern : Pattern) (longest : Bool) : List Text → List Text
  | [] => []
  | first :: rest =>
      if longest && pattern.covers first then [[]] else pattern.cutStart longest first :: rest

/-- Texts without what the pattern covers at the end of one of them. Those behind that one go, too. -/
def cutEndOfAll (pattern : Pattern) (longest : Bool) (texts : List Text) : List Text :=
  let isLeft (text : Text) : Bool := !(suffixes text).any pattern.covers
  let front :=
    if longest then texts.takeWhile isLeft
    else (texts.reverse.dropWhile isLeft).reverse.dropLast
  match texts.drop front.length with
  | [] => texts
  | text :: _ => if texts.all isLeft then texts else front ++ [pattern.cutEnd longest text]

/-- Whether a text that is not quoted is a pattern for names. -/
def isPattern (text : List MarkedChar) : Bool :=
  text.any fun marked => !marked.2 && ['*', '?', '\x5b'].contains marked.1

end Pattern

end AsmLens.Shell
