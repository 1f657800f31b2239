import AsmLens.Text.Blank

namespace AsmLens.Text

/-- The characters that end a line by themselves; a carriage return takes a line feed after it along. -/
def lineEnds : List Char :=
  ['\n', '\r', '\x0b', '\x0c', '\x1c', '\x1d', '\x1e', '\u0085', '\u2028', '\u2029']

def isLineEnd (c : Char) : Bool :=
  lineEnds.contains c

/-- A line and the line end that closes it; only the last line of a text may be left open. -/
structure Segment where
  line : Text
  terminator : Text
  deriving DecidableEq, Repr

/-- A text that closes with a line end has no empty line after it. -/
def segments : Text → List Segment
  | [] => []
  | '\r' :: '\n' :: rest => ⟨[], ['\r', '\n']⟩ :: segments rest
  | c :: rest =>
      if isLineEnd c then
        ⟨[], [c]⟩ :: segments rest
      else
        match segments rest with
        | [] => [⟨[c], []⟩]
        | segment :: more => { segment with line := c :: segment.line } :: more

/-- The lines of a text without their ends. -/
def lines (text : Text) : List Text :=
  text.segments.map Segment.line

/-- Cutting a text into lines loses nothing of it. -/
theorem flatMap_segments (text : Text) :
    text.segments.flatMap (fun segment => segment.line ++ segment.terminator) = text := by
  fun_induction segments text with
  | case1 => rfl
  | case2 rest ih => simp [ih]
  | case3 c rest _ _ ih => simp [ih]
  | case4 c rest _ _ hrest ih =>
      rw [hrest] at ih
      simp [← ih]
  | case5 c rest _ _ segment more hrest ih =>
      rw [hrest] at ih
      simp [← ih]

end AsmLens.Text
