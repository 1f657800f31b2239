import AsmLens.Text.Cells
import AsmLens.View.Window

namespace AsmLens

/-- The looks of a piece of text on a terminal. -/
inductive Style where
  | none
  | marked
  | shadow
  | alarm
  deriving DecidableEq, Repr

namespace Style

/-- The parameters of the terminal's rendition sequence. -/
def code? : Style → Option Text
  | .none => Option.none
  | .marked => some "1;7"
  | .shadow => some "2"
  | .alarm => some "31"

end Style

structure Span where
  style : Style
  text : Text
  deriving DecidableEq, Repr

/-- A styled text stands between the sequence for its style and the one that resets it. -/
def Span.render (span : Span) : Text :=
  match span.style.code? with
  | none => span.text
  | some code => "\x1b[" ++ code ++ "m" ++ span.text ++ "\x1b[0m"

namespace View

def tabSize : Nat := 8

/-- The characters that move the cursor of a terminal and are not shown. -/
def isDropped (c : Char) : Bool :=
  ['\x07', '\x08', '\x0b', '\x0c', '\r'].contains c

/-- A line cut after each of its tabs. -/
def tabStops : Text → List Text
  | [] => []
  | c :: rest =>
      if c = '\t' then
        [c] :: tabStops rest
      else
        match tabStops rest with
        | [] => [[c]]
        | stop :: stops => (c :: stop) :: stops

/-- Makes a closing tab a space and fills up with spaces to the next tab stop. -/
def expandTab (column : Nat) (part : Text) : Text :=
  if part.getLast? = some '\t' then
    let text : Text := part.dropLast ++ [' ']
    let rest := (column + text.cells) % tabSize
    if rest = 0 then text else text ++ List.replicate (tabSize - rest) ' '
  else
    part

def expandTabs : Nat → List Text → List Text
  | _, [] => []
  | column, part :: parts =>
      let text := expandTab column part
      text :: expandTabs (column + text.cells) parts

/-- The parts of a line that are written, each with its style. -/
def shownParts (line : Text) : List Text :=
  let shown := line.filter fun c => !isDropped c
  expandTabs 0 (tabStops shown)

def rowStyle (row : Row) : Style :=
  if row.isMarked then .marked
  else if row.line.isInstruction then .none
  else .shadow

def rowSpans (row : Row) : List Span :=
  (shownParts row.line.text).map fun part => ⟨rowStyle row, part⟩

def styledRow (row : Row) : Text :=
  (rowSpans row).flatMap Span.render ++ "\n"

/-- The listing with the marked line highlighted and the lines without an instruction dimmed. -/
def styled (view : View) : Text :=
  view.rows.flatMap styledRow

end View

end AsmLens
