import AsmLens.Text.Basic

namespace AsmLens.ShellWords

/-- The characters that a shell takes as they are. -/
def isPlain (c : Char) : Bool :=
  c.isAlphanum || "_@%+=:,./-".toList.contains c

/-- One word of a command line that stands for the text, whatever the text holds. -/
def quote (text : Text) : Text :=
  if text.isEmpty then
    "''"
  else if text.all isPlain then
    text
  else
    '\'' :: (text.flatMap (fun c => if c = '\'' then "'\"'\"'" else [c]) ++ ['\''])

inductive SplitError where
  | noClosingQuotation
  | noEscapedCharacter
  deriving DecidableEq, Repr

def SplitError.message : SplitError → Text
  | .noClosingQuotation => "No closing quotation"
  | .noEscapedCharacter => "No escaped character"

inductive Mode where
  | bare
  | single
  | double
  | bareEscape
  | doubleEscape
  deriving DecidableEq, Repr

/-- A command line read up to some character: the finished words, and the word that has begun. -/
structure Scan where
  mode : Mode
  words : List Text
  word : Option Text
  deriving DecidableEq, Repr

namespace Scan

def start : Scan :=
  ⟨.bare, [], none⟩

def push (scan : Scan) (mode : Mode) (text : Text) : Scan :=
  { scan with mode, word := some (scan.word.getD [] ++ text) }

def close (scan : Scan) : Scan :=
  ⟨.bare, scan.words ++ scan.word.toList, none⟩

def isSeparator (c : Char) : Bool :=
  c = ' ' || c = '\t' || c = '\r' || c = '\n'

/-- Between double quotes a backslash escapes a double quote and a backslash, and else stands for
itself; elsewhere it escapes any character, and between single quotes none. -/
def step (scan : Scan) (c : Char) : Scan :=
  match scan.mode with
  | .bare =>
      if isSeparator c then scan.close
      else if c = '\'' then scan.push .single []
      else if c = '"' then scan.push .double []
      else if c = '\\' then { scan with mode := .bareEscape }
      else scan.push .bare [c]
  | .single => if c = '\'' then { scan with mode := .bare } else scan.push .single [c]
  | .double =>
      if c = '"' then { scan with mode := .bare }
      else if c = '\\' then { scan with mode := .doubleEscape }
      else scan.push .double [c]
  | .bareEscape => scan.push .bare [c]
  | .doubleEscape => scan.push .double (if c = '"' ∨ c = '\\' then [c] else ['\\', c])

def finish (scan : Scan) : Except SplitError (List Text) :=
  match scan.mode with
  | .bare => .ok scan.close.words
  | .single | .double => .error .noClosingQuotation
  | .bareEscape | .doubleEscape => .error .noEscapedCharacter

end Scan

/-- The words of a command line after quotes and escapes are taken off. -/
def split (line : Text) : Except SplitError (List Text) :=
  (line.foldl Scan.step Scan.start).finish

end AsmLens.ShellWords
