import AsmLens.Failure
import AsmLens.FileTree.Basic
import AsmLens.Text.Newline
import AsmLens.Text.Utf8

namespace AsmLens

/-- What a program leaves when it ends. -/
structure Reply where
  exitCode : Int
  output : Text
  errorOutput : Text
  deriving DecidableEq, Repr

/-- Why a program could not be started. -/
inductive StartError where
  | os (error : OsError)
  | nulByte
  | noWords
  deriving DecidableEq, Repr

def StartError.failure : StartError → Failure
  | .os error => .os error
  | .nulByte => .nulByte
  | .noWords => .noWords

/-- A request to run a program: its words, whether its error output goes into its output, and the
file tree that it finds. -/
structure Call where
  argv : List Text
  mergeErrors : Bool
  tree : FileTree
  deriving DecidableEq, Repr

/-- Runs programs. An answer depends on the call and on how many calls came before it, and the program
may leave any file tree behind. -/
structure Runner where
  announces : Bool
  answer : Nat → Call → Except StartError Reply × FileTree

/-- The text of the bytes that a program has written, with every kind of line break as a line feed. -/
def Runner.captured (bytes : List UInt8) : Text :=
  (Text.decode bytes).unifyNewlines

end AsmLens
