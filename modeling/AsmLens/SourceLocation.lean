import AsmLens.FileTree.Files
import AsmLens.Text.Lines

namespace AsmLens

/-- A line of a source file, counted from one, and its text without the line end. -/
structure SourceLocation where
  path : Path
  line : Int
  text : Text
  deriving DecidableEq, Repr

namespace SourceLocation

/-- Takes one line out of a text. An empty text still has a first line. -/
def pick (path : Path) (content : Text) (line : Int) : Except SourceError SourceLocation :=
  let lines := content.lines
  let lineCount := max lines.length 1
  if line < 1 ∨ lineCount < line then
    .error (.outOfRange path line lineCount)
  else
    .ok ⟨path, line, lines.getD (line - 1).toNat []⟩

/-- The text of a source file. -/
def content (tree : FileTree) (path : Path) : Except Failure Text :=
  match tree.readText path with
  | .ok content => .ok content
  | .error (.os error) => .error (.source (.unreadable path error))
  | .error failure => .error failure

def read (tree : FileTree) (path : Path) (line : Int) : Except Failure SourceLocation := do
  let content ← content tree path
  (pick path content line).mapError Failure.source

end SourceLocation

end AsmLens
