import AsmLens.Text.Basic

namespace AsmLens

/-- How a path begins. Two slashes are a root of their own; three or more are the same as one. -/
inductive Root where
  | relative
  | single
  | double
  deriving DecidableEq, Repr

def Root.toText : Root → Text
  | .relative => ""
  | .single => "/"
  | .double => "//"

/-- A path in its normal form: the names between slashes, without empty names and single dots. -/
structure Path where
  root : Root
  names : List Text
  deriving DecidableEq, Repr

namespace Path

def rootOf (path : Text) : Root :=
  match (path.takeWhile (· = '/')).length with
  | 0 => .relative
  | 2 => .double
  | _ => .single

def isName (piece : Text) : Bool :=
  piece ≠ [] && piece ≠ ['.']

def ofText (path : Text) : Path :=
  ⟨rootOf path, (Text.cut '/' path).filter isName⟩

def toText (path : Path) : Text :=
  match path.root, path.names with
  | .relative, [] => "."
  | root, names => root.toText ++ Text.join "/" names

/-- The last name of the path, empty for the root and the current directory. -/
def name (path : Path) : Text :=
  path.names.getLast?.getD []

def parent (path : Path) : Path :=
  { path with names := path.names.dropLast }

def down (path : Path) (name : Text) : Path :=
  { path with names := path.names ++ [name] }

/-- A path without its last name. One that has led nowhere but up leads up once more; nothing is above
a root. -/
def up (path : Path) : Path :=
  if path.root = .relative ∧ path.names.all (· = "..") then path.down ".."
  else { path with names := path.names.dropLast }

/-- The path after one more name, where two dots lead up. -/
def follow (path : Path) (name : Text) : Path :=
  if name = ".." then path.up else path.down name

/-- The path in which two dots have taken the names before them away. -/
def collapse (path : Path) : Path :=
  path.names.foldl follow ⟨path.root, []⟩

/-- A path below another one, unless it has a root of its own. -/
def append (path below : Path) : Path :=
  match below.root with
  | .relative => { path with names := path.names ++ below.names }
  | _ => below

end Path

end AsmLens
