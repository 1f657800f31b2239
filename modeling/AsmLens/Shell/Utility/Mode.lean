import AsmLens.FileTree.Basic
import AsmLens.Shell.Escape

namespace AsmLens.Shell

/-- What a mode makes of the permissions of a file, or of a directory. -/
abbrev ModeChange := Bool → Nat → Nat

namespace ModeChange

/-- The permissions that a letter grants, to everyone. A capital letter goes by what is there. -/
def granted (isDirectory : Bool) (mode : Nat) (letter : Char) : Nat :=
  let spread (bits : Nat) : Nat := bits % 8 * 0o111
  match letter with
  | 'r' => 0o444
  | 'w' => 0o222
  | 'x' => 0o111
  | 'X' => if isDirectory || mode &&& 0o111 ≠ 0 then 0o111 else 0
  | 's' => 0o6000
  | 't' => 0o1000
  | 'u' => spread (mode / 64)
  | 'g' => spread (mode / 8)
  | 'o' => spread mode
  | _ => 0

/-- The permissions that belong to some classes of users. Without a class these are all of them but those
that new files never get. -/
def mask (classes : Text) : Nat :=
  if classes.isEmpty then 0o7755
  else
    classes.foldl
      (fun mask letter =>
        mask ||| match letter with
          | 'u' => 0o4700
          | 'g' => 0o2070
          | 'o' => 0o1007
          | _ => 0o7777)
      0

/-- Operators with letters behind them, as many as steps are allowed. -/
def ofActions? (mask : Nat) : Nat → Text → Option ModeChange
  | 0, _ => none
  | _, [] => some fun _ mode => mode
  | steps + 1, sign :: rest =>
      if sign = '+' ∨ sign = '-' ∨ sign = '=' then
        let letters := rest.takeWhile "rwxXstugo".toList.contains
        (ofActions? mask steps (rest.drop letters.length)).map fun next isDirectory mode =>
          let bits := letters.foldl (fun bits letter => bits ||| granted isDirectory mode letter) 0
          let bits := bits &&& mask
          next isDirectory <|
            if sign = '+' then mode ||| bits
            else if sign = '-' then mode - (mode &&& bits)
            else (mode - (mode &&& mask)) ||| bits
      else
        none

def ofClause? (clause : Text) : Option ModeChange :=
  let classes := clause.takeWhile "ugoa".toList.contains
  let actions := clause.drop classes.length
  if actions.isEmpty then none else ofActions? (mask classes) (actions.length + 1) actions

/-- Reads a mode: octal digits, or clauses with commas between them. -/
def ofText? (mode : Text) : Option ModeChange :=
  if mode ≠ [] ∧ mode.all fun c => (Escapes.octalDigit? c).isSome then
    let value := mode.foldl (fun value c => 8 * value + (c.toNat - '0'.toNat)) 0
    if value ≤ 0o7777 then some fun _ _ => value else none
  else
    (Text.cut ',' mode).foldl
      (fun change? clause => do
        let change ← change?
        let next ← ofClause? clause
        some fun isDirectory mode => next isDirectory (change isDirectory mode))
      (some fun _ mode => mode)

end ModeChange

/-- The permissions of an entry. -/
def permissions : Entry → Nat
  | .file _ executable => if executable then 0o755 else 0o644
  | .directory => 0o755
  | .link _ => 0o777

/-- The letters of permissions. -/
def permissionLetters (mode : Nat) : Text :=
  (List.range 9).map fun index =>
    if mode / Nat.pow 2 (8 - index) % 2 = 1 then ("rwx".toList).getD (index % 3) '-' else '-'

end AsmLens.Shell
