import AsmLens.Failure
import AsmLens.FileTree.Walk
import AsmLens.Text.Newline

namespace AsmLens

/-- The errors of a path at whose end nothing can be. -/
def Errno.meansAbsent : Errno → Bool
  | .noEntry | .notDirectory | .tooManyLinks => true
  | _ => false

namespace FileTree

/-- A path with a NUL byte names nothing that an operation could be asked for. -/
def onPath {α : Type} (path : Text) (result : Except Errno α) : Except Failure α :=
  if path.contains '\x00' then .error .nulByte
  else result.mapError fun errno => .os (errno.at path)

/-- What is there at a path, if anything; errors other than absence are kept. -/
def status? (tree : FileTree) (path : Path) : Except OsError (Option Entry) :=
  let text := path.toText
  if text.contains '\x00' then
    .ok none
  else
    match tree.status text with
    | .ok entry => .ok (some entry)
    | .error errno => if errno.meansAbsent then .ok none else .error (errno.at text)

def isThere (tree : FileTree) (path : Path) : Except OsError Bool :=
  (tree.status? path).map Option.isSome

def isDirectory (tree : FileTree) (path : Path) : Except OsError Bool :=
  (tree.status? path).map fun found => found.any Entry.isDirectory

def readBytes (tree : FileTree) (path : Text) : Except Errno (List UInt8) := do
  match ← tree.status path with
  | .file bytes _ => .ok bytes
  | .directory => .error .isDirectory
  | .link _ => .error .tooManyLinks

/-- The text of a file: its bytes as UTF-8, with every kind of line break as a line feed. -/
def readText (tree : FileTree) (path : Path) : Except Failure Text :=
  (onPath path.toText (tree.readBytes path.toText)).map fun bytes => (Text.decode bytes).unifyNewlines

/-- Writes a file through all links, in the place of its old bytes if there is one. -/
def writeBytes (tree : FileTree) (path : Text) (bytes : List UInt8) : Except Errno FileTree := do
  let location ← tree.locate .create path
  match tree.get? location with
  | none => .ok (tree.insert location (.file bytes false))
  | some (.file _ executable) => .ok (tree.insert location (.file bytes executable))
  | some .directory => .error .isDirectory
  | some (.link _) => .error .tooManyLinks

def makeDirectory (tree : FileTree) (path : Text) : Except Errno FileTree := do
  match ← tree.slot? path with
  | none => .error .exists
  | some location =>
      match tree.get? location with
      | none => .ok (tree.insert location .directory)
      | some _ => .error .exists

/-- Removes a file or a link, but no directory. -/
def unlink (tree : FileTree) (path : Text) : Except Errno FileTree := do
  match ← tree.slot? path with
  | none => .error .isDirectory
  | some location =>
      match tree.get? location with
      | none => .error .noEntry
      | some .directory => .error .isDirectory
      | some _ => .ok (tree.erase location)

end FileTree

/-- A step on a file tree. What it has changed stays changed when it fails. -/
abbrev TreeAction := ExceptT Failure (StateM FileTree)

namespace TreeAction

/-- Makes one directory, or does something else where the directory above it is absent. A directory
that is there already is as good as a new one. -/
def makeDirectoryOr (path : Path) (whenAbsent : TreeAction Unit) : TreeAction Unit := do
  let tree ← get
  let text := path.toText
  if text.contains '\x00' then
    throw .nulByte
  else
    match tree.makeDirectory text with
    | .ok changed => set changed
    | .error .noEntry => whenAbsent
    | .error errno =>
        match tree.isDirectory path with
        | .ok true => pure ()
        | .ok false => throw (.os (errno.at text))
        | .error error => throw (.os error)

/-- Makes a directory and all that are absent above it; the names are given from the innermost one. A
directory above is made inside the call for the one below it, as long as there is room for another call. -/
def makeDirectoriesOf (root : Root) : Nat → List Text → TreeAction Unit
  | _, [] => makeDirectoryOr ⟨root, []⟩ (throw (.os (Errno.noEntry.at (Path.mk root []).toText)))
  | room, name :: above => do
      let path : Path := ⟨root, (name :: above).reverse⟩
      makeDirectoryOr path do
        match room with
        | 0 => throw (.nestedTooDeep .directories)
        | room + 1 =>
            makeDirectoriesOf root room above
            makeDirectoryOr path (throw (.os (Errno.noEntry.at path.toText)))
termination_by structural _ names => names

def makeDirectoriesWithin (room : Nat) (path : Path) : TreeAction Unit :=
  makeDirectoriesOf path.root room path.names.reverse

/-- With room for all that are above it, a directory is made however deep it is. -/
def makeDirectories (path : Path) : TreeAction Unit :=
  makeDirectoriesWithin path.names.length path

/-- How many calls making a single directory takes. -/
def callsToMake : Nat := 5

/-- Removes a file or a link if one is there. -/
def remove (path : Path) : TreeAction Unit := do
  let tree ← get
  let text := path.toText
  if text.contains '\x00' then
    throw .nulByte
  else
    match tree.unlink text with
    | .ok changed => set changed
    | .error .noEntry => pure ()
    | .error errno => throw (.os (errno.at text))

def writeText (path : Path) (content : Text) : TreeAction Unit := do
  let tree ← get
  match FileTree.onPath path.toText (tree.writeBytes path.toText content.encode) with
  | .ok changed => set changed
  | .error failure => throw failure

end TreeAction

end AsmLens
