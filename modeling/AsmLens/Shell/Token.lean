import AsmLens.Shell.Script

namespace AsmLens.Shell

/-- A document has its number until its content is known. -/
inductive Token where
  | word (line : Nat) (value : Word)
  | descriptor (number : Nat)
  | operator (line : Nat) (symbol : Text)
  | document (number : Nat) (content : Word)
  | newline (line : Nat)
  | finish (line : Nat) (error : Option ScriptError)
  deriving Repr

namespace Token

def operators : List Text :=
  [";", "&", "|", "<", ">", "(", ")", ";;", "&&", "||", "<<", "<<-", ">>", "<&", ">&", "<>", ">|"]

def isNameStart (c : Char) : Bool :=
  c.isAlpha || c = '_'

def isNameChar (c : Char) : Bool :=
  c.isAlphanum || c = '_'

/-- Whether a character is the name of a parameter that the shell keeps itself. -/
def isSpecial (c : Char) : Bool :=
  "@*#?$!-".toList.contains c

/-- The letters of a word that is plain text throughout. -/
def plainText? (word : Word) : Option Text :=
  word.foldr
    (fun piece rest? =>
      match piece, rest? with
      | .text value false, some rest => some (value ++ rest)
      | _, _ => none)
    (some [])

end Token

end AsmLens.Shell
