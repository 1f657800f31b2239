import AsmLens.Text.Basic

namespace AsmLens.Shell

/-- A set of characters: those that some tests hold of, or all others. -/
structure CharSet where
  isNegated : Bool := false
  tests : List (Char → Bool) := []

namespace CharSet

def all : CharSet :=
  ⟨true, []⟩

def single (c : Char) : CharSet :=
  ⟨false, [(· = c)]⟩

def has (set : CharSet) (c : Char) : Bool :=
  (set.tests.any fun test => test c) != set.isNegated

/-- Whether a character is in the set in one of its cases. -/
def hasInSomeCase (set : CharSet) (c : Char) : Bool :=
  (set.tests.any fun test => test c || test c.toLower || test c.toUpper) != set.isNegated

end CharSet

/-- The characters of words. -/
def isWordChar (c : Char) : Bool :=
  c.isAlphanum || c = '_'

/-- The classes of characters by their names. -/
def charClasses : List (Text × (Char → Bool)) := [
  ("alpha", Char.isAlpha),
  ("digit", Char.isDigit),
  ("alnum", Char.isAlphanum),
  ("upper", Char.isUpper),
  ("lower", Char.isLower),
  ("space", fun c => " \t\n\x0b\x0c\r".toList.contains c),
  ("blank", fun c => c = ' ' || c = '\t'),
  ("cntrl", fun c => c < ' ' || c = '\x7f'),
  ("print", fun c => ' ' ≤ c && c ≠ '\x7f'),
  ("graph", fun c => ' ' < c && c ≠ '\x7f'),
  ("punct", fun c => '!' ≤ c && c ≤ '~' && !c.isAlphanum),
  ("xdigit", fun c => c.isDigit || ('a' ≤ c.toLower && c.toLower ≤ 'f'))]

def charClass? (name : Text) : Option (Char → Bool) :=
  (charClasses.find? fun entry => entry.1 = name).map Prod.snd

/-- A place between two characters. -/
inductive Boundary where
  | lineStart
  | lineEnd
  | textStart
  | textEnd
  | wordStart
  | wordEnd
  | wordEdge
  | inside
  deriving DecidableEq

/-- A regular expression. A group is known by its number. -/
inductive Regex where
  | empty
  | oneOf (set : CharSet)
  | boundary (boundary : Boundary)
  | again (group : Nat)
  | group (number : Nat) (body : Regex)
  | both (first second : Regex)
  | either (first second : Regex)
  | repeated (body : Regex) (least : Nat) (most : Option Nat)

namespace Regex

/-- Whether a group is asked for again. -/
def looksBack : Regex → Bool
  | .again _ => true
  | .group _ body | .repeated body _ _ => looksBack body
  | .both first second | .either first second => looksBack first || looksBack second
  | .empty | .oneOf _ | .boundary _ => false

def groupCount : Regex → Nat
  | .group number body => max number (groupCount body)
  | .repeated body _ _ => groupCount body
  | .both first second | .either first second => max (groupCount first) (groupCount second)
  | .empty | .oneOf _ | .boundary _ | .again _ => 0

def ofText (text : Text) : Regex :=
  text.foldr (fun c rest => .both (.oneOf (.single c)) rest) .empty

end Regex

end AsmLens.Shell
