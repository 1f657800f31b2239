import AsmLens.FileTree.Files

namespace AsmLens.SourceArgument

/-- The file and the digits of an argument that reads `FILE:DIGITS`, cut at the last colon. One line
feed may stand at the end. -/
def position? (source : Text) : Option (Text × Text) :=
  let reversed := source.dropFinalNewline.reverse
  let digits := (reversed.takeWhile Text.isDigit).reverse
  match reversed.dropWhile Text.isDigit with
  | ':' :: file =>
      if digits.isEmpty || file.isEmpty || file.contains '\n' then none
      else some (file.reverse, digits)
  | _ => none

/-- The file and the line that an argument asks for. A line that is given apart wins, and so does a
file whose name looks like a position. -/
def read (tree : FileTree) (source : Text) (line? : Option Int) : Except Failure (Path × Int) :=
  match line? with
  | some line => .ok (Path.ofText source, line)
  | none =>
      match position? source with
      | none => .ok (Path.ofText source, 1)
      | some (file, digits) =>
          match tree.isThere (Path.ofText source) with
          | .error error => .error (.os error)
          | .ok true => .ok (Path.ofText source, 1)
          | .ok false =>
              if Text.digitLimit < digits.length then
                .error (.tooManyDigits digits.length)
              else
                .ok (Path.ofText file, Text.natOfDigits digits)

end AsmLens.SourceArgument
