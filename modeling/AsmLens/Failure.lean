import AsmLens.Compilation.Basic
import AsmLens.Disassembly.Basic
import AsmLens.OsError
import AsmLens.Path
import AsmLens.ShellWords
import AsmLens.Text.Number

namespace AsmLens

/-- Why a source position is refused. -/
inductive SourceError where
  | unreadable (path : Path) (error : OsError)
  | outOfRange (path : Path) (line : Int) (lineCount : Nat)
  deriving DecidableEq, Repr

def SourceError.message : SourceError → Text
  | .unreadable path error =>
      "Cannot read source file: " ++ path.toText ++ " (" ++ error.message ++ ")"
  | .outOfRange path line lineCount =>
      "Line " ++ Text.ofInt line ++ " is out of range for " ++ path.toText ++ " (1-" ++
        Text.ofNat lineCount ++ ")"

/-- How many calls may be open at once. -/
def callLimit : Nat := 1000

/-- How many calls can be opened inside each other in one that is opened after some others, where the
innermost needs some more calls for its own work. -/
def roomForCalls (before inner : Nat) : Nat :=
  callLimit - (before + 1 + inner)

/-- What takes a call inside another one: a directory above one that is absent too, or a link in the
target of a link. -/
inductive Nesting where
  | directories
  | links
  deriving DecidableEq, Repr

/-- Everything that can end a step early. -/
inductive Failure where
  | os (error : OsError)
  | nulByte
  | nestedTooDeep (nesting : Nesting)
  | unknownAccount (number : Nat)
  | noWords
  | split (error : ShellWords.SplitError)
  | linkLoop (path : Text)
  | unknownPresenter (name : Text)
  | noCompiler (tag : Text)
  | noFlags (tag : Text)
  | tooManyDigits (count : Nat)
  | missingNumber
  | unsupportedFile (path : Text)
  | source (error : SourceError)
  | compilation (result : Compilation)
  | disassembly (result : Disassembly)
  deriving DecidableEq, Repr

def Failure.message : Failure → Text
  | .os error => error.message
  | .nulByte => "embedded null byte"
  | .nestedTooDeep _ => "maximum recursion depth exceeded"
  | .unknownAccount number =>
      Text.quoted ("getpwuid(): uid not found: " ++ Text.ofNat number)
  | .noWords => "list index out of range"
  | .split error => error.message
  | .linkLoop path => "Symlink loop from " ++ path.quoted
  | .unknownPresenter name => "Unsupported presenter: " ++ name
  | .noCompiler tag => "No compiler for language: " ++ tag
  | .noFlags tag => "No flags for language: " ++ tag
  | .tooManyDigits count =>
      "Exceeds the limit (" ++ Text.ofNat Text.digitLimit ++
        " digits) for integer string conversion: value has " ++ Text.ofNat count ++
        " digits; use sys.set_int_max_str_digits() to increase the limit"
  | .missingNumber => "'<' not supported between instances of 'list' and 'int'"
  | .unsupportedFile path => "Unsupported file type: " ++ path
  | .source error => error.message
  | .compilation result => result.failureMessage
  | .disassembly result => Disassembly.failureMessage result.exitCode

end AsmLens
