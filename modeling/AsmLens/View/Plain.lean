import AsmLens.View.Window

namespace AsmLens.View

def gutter (isMarked : Bool) : Text :=
  if isMarked then "=> " else "   "

def plainRow (row : Row) : Text :=
  gutter row.isMarked ++ row.line.text ++ "\n"

/-- The text, closed by a line feed unless it is empty. -/
def closeLine (text : Text) : Text :=
  if text.isEmpty || text.getLast? = some '\n' then text else text ++ "\n"

/-- The listing with a gutter in which the marked line stands out. A listing without a marked line is
shown as it is. -/
def plain (view : View) : Text :=
  match view.marked with
  | none => closeLine view.listing
  | some _ => view.rows.flatMap plainRow

end AsmLens.View
