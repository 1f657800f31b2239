import AsmLens.FileTree.Basic
import AsmLens.OsError
import AsmLens.Text.Utf8

namespace AsmLens.FileTree

/-- How many links one path may lead through. -/
def linkLimit : Nat := 40

/-- How many bytes a name may have. -/
def nameLimit : Nat := 255

/-- How many bytes a path may have. -/
def pathLimit : Nat := 4095

def isAbsolute (path : Text) : Bool :=
  path.head? = some '/'

/-- The names that a path leads through. A slash at its end is a step of its own, which asks for a
directory as a dot does. -/
def steps (path : Text) : List Text :=
  (Text.cut '/' path).filter (· ≠ []) ++ if path.getLast? = some '/' then [['/']] else []

/-- Where a path starts that is read in some directory. -/
def origin (directory : Location) (path : Text) : Location :=
  if isAbsolute path then [] else directory

/-- What a walk is for: to find what is there, or to make a file where nothing is. -/
inductive Purpose where
  | lookup
  | create
  deriving DecidableEq, Repr

/-- Follows names from a location. Every name but the last must be there; the last may be vacant. A
file cannot be made under a name with a slash at its end, whatever is there. -/
def walkWith (tree : FileTree) (purpose : Purpose)
    (follow : Location → Text → List Text → Except Errno Location) :
    Location → List Text → Except Errno Location
  | here, [] => .ok here
  | here, name :: rest =>
      match tree.get? here with
      | none => .error .noEntry
      | some (.file _ _) | some (.link _) => .error .notDirectory
      | some .directory =>
          if name = "." ∨ name = "/" then walkWith tree purpose follow here rest
          else if name = ".." then walkWith tree purpose follow here.tail rest
          else if purpose = .create ∧ rest = [['/']] then .error .isDirectory
          else if nameLimit < name.byteLength then .error .nameTooLong
          else
            match tree.get? (name :: here) with
            | some (.link target) => follow here target rest
            | some _ => walkWith tree purpose follow (name :: here) rest
            | none => if rest.isEmpty then .ok (name :: here) else .error .noEntry

/-- Follows names and as many links as are still allowed. -/
def walk (tree : FileTree) (purpose : Purpose) :
    Nat → Location → List Text → Except Errno Location
  | 0 => walkWith tree purpose fun _ _ _ => .error .tooManyLinks
  | links + 1 =>
      walkWith tree purpose fun here target rest =>
        walk tree purpose links (origin here target) (steps target ++ rest)

def walkPath (tree : FileTree) (purpose : Purpose) (path : Text) (names : List Text) :
    Except Errno Location :=
  if path.isEmpty then .error .noEntry
  else if pathLimit < path.byteLength then .error .nameTooLong
  else walk tree purpose linkLimit (origin tree.workingDirectory path) names

/-- The location a path leads to through all its links, which may be vacant. -/
def locate (tree : FileTree) (purpose : Purpose) (path : Text) : Except Errno Location :=
  walkPath tree purpose path (steps path)

/-- What is there at the end of a path, through all its links. -/
def status (tree : FileTree) (path : Text) : Except Errno Entry := do
  let location ← tree.locate .lookup path
  match tree.get? location with
  | some entry => .ok entry
  | none => .error .noEntry

/-- The location that a path names in its directory, without following a link there. A path that ends
in a slash or in dots names none. -/
def slot? (tree : FileTree) (path : Text) : Except Errno (Option Location) := do
  let names := steps path
  let directory ← walkPath tree .lookup path names.dropLast
  match tree.get? directory with
  | none => .error .noEntry
  | some (.file _ _) | some (.link _) => .error .notDirectory
  | some .directory =>
      match names.getLast? with
      | none => .ok none
      | some name =>
          if name = "." ∨ name = ".." ∨ name = "/" then .ok none
          else if nameLimit < name.byteLength then .error .nameTooLong
          else .ok (some (name :: directory))

end AsmLens.FileTree
