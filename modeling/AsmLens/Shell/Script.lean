import AsmLens.Text.Basic

namespace AsmLens.Shell

/-- What becomes of the value of a parameter. Most changes read an operand; the flags say whether an
empty value counts as none, and whether as much as possible is cut off. -/
inductive Change where
  | asIs
  | length
  | otherwise (orEmpty : Bool)
  | assign (orEmpty : Bool)
  | instead (orEmpty : Bool)
  | demand (orEmpty : Bool)
  | cutStart (longest : Bool)
  | cutEnd (longest : Bool)
  | unreadable
  deriving DecidableEq, Repr

/-- A part of a word as it stands in a script. What is not quoted may vanish or fall apart into several
words. -/
inductive Piece where
  | text (value : Text) (isQuoted : Bool)
  | parameter (name : Text) (change : Change) (operand : List Piece) (isQuoted : Bool)
  /-- A script that starts at a line. It is read again when its turn comes. -/
  | command (line : Nat) (script : Text) (isQuoted : Bool)
  | arithmetic (expression : List Piece) (isQuoted : Bool)
  deriving Repr

abbrev Word := List Piece

/-- What becomes of a file that is there already when a command writes to it: it is emptied, unless that
is guarded against, it is emptied in any case, or it is kept and the output goes behind it. -/
inductive OutputMode where
  | empties
  | overrides
  | appends
  | keeps
  deriving DecidableEq, Repr

/-- What a descriptor is tied to instead. -/
inductive RedirectTarget where
  | output (path : Word) (mode : OutputMode)
  | input (path : Word)
  | document (content : Word)
  | descriptor (number : Word)
  deriving Repr

structure Redirect where
  descriptor : Nat
  target : RedirectTarget
  deriving Repr

inductive Command where
  | nothing
  | simple (line : Nat) (assignments : List (Text × Word)) (words : List Word)
      (redirects : List Redirect)
  | group (line : Nat) (body : Command) (redirects : List Redirect)
  | subshell (body : Command)
  | sequence (first second : Command)
  | both (first second : Command)
  | either (first second : Command)
  | negation (body : Command)
  | pipeline (first second : Command)
  | background (body : Command)
  | choice (condition whenTrue whenFalse : Command)
  | loop (condition : Command) (goesOn : Bool) (body : Command)
  | forEach (line : Nat) (name : Text) (words : List Word) (body : Command)
  | selection (line : Nat) (subject : Word) (branches : Command)
  | branch (patterns : List Word) (body others : Command)
  | definition (name : Text) (body : Command)
  deriving Repr

/-- All parameters, each a word of its own. -/
def allParameters : Word :=
  [.parameter "@" .asIs [] true]

/-- Why a script cannot be read on. -/
inductive ScriptError where
  | unterminatedQuote
  | unterminatedBackquote
  | missingBrace
  | missingParentheses
  | badFunctionName
  | badLoopVariable
  | badDescriptor
  | unexpected (found : Text) (expected : Option Text)
  deriving DecidableEq, Repr

def ScriptError.message : ScriptError → Text
  | .unterminatedQuote => "Unterminated quoted string"
  | .unterminatedBackquote => "EOF in backquote substitution"
  | .missingBrace => "Missing '\x7d'"
  | .missingParentheses => "Missing '))'"
  | .badFunctionName => "Bad function name"
  | .badLoopVariable => "Bad for loop variable"
  | .badDescriptor => "Bad fd number"
  | .unexpected found none => found ++ " unexpected"
  | .unexpected found (some expected) => found ++ " unexpected (expecting " ++ expected ++ ")"

end AsmLens.Shell
