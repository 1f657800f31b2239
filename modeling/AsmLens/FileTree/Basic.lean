import AsmLens.Text.Basic

namespace AsmLens

/-- A place in a file tree: the names from the innermost one out to the root, so that the tail of a
location is its directory. -/
abbrev Location := List Text

inductive Entry where
  | file (bytes : List UInt8) (executable : Bool)
  | directory
  | link (target : Text)
  deriving DecidableEq, Repr

def Entry.isDirectory : Entry → Bool
  | .directory => true
  | _ => false

/-- The entries of a file tree by location, and the directory that relative paths start from. -/
structure FileTree where
  workingDirectory : Location
  entries : List (Location × Entry)
  deriving DecidableEq, Repr

namespace FileTree

/-- The root is always a directory. -/
def get? (tree : FileTree) : Location → Option Entry
  | [] => some .directory
  | location => (tree.entries.find? fun entry => entry.1 = location).map Prod.snd

def erase (tree : FileTree) (location : Location) : FileTree :=
  { tree with entries := tree.entries.filter fun entry => entry.1 ≠ location }

def insert (tree : FileTree) (location : Location) (entry : Entry) : FileTree :=
  { tree with entries := (location, entry) :: (tree.erase location).entries }

/-- A tree with nothing but the working directory and the directories above it. -/
def bare : Location → FileTree
  | [] => ⟨[], []⟩
  | name :: above =>
      { (bare above).insert (name :: above) .directory with workingDirectory := name :: above }

/-- The path of a location from the working directory, if it lies below it. -/
def relative? (tree : FileTree) (location : Location) : Option Text :=
  let depth := location.length - tree.workingDirectory.length
  if depth ≠ 0 ∧ location.drop depth = tree.workingDirectory then
    some (Text.join "/" (location.take depth).reverse)
  else
    none

/-- The entries below the working directory, by their paths from it. -/
def contents (tree : FileTree) : List (Text × Entry) :=
  tree.entries.filterMap fun entry => (tree.relative? entry.1).map fun path => (path, entry.2)

/-- The paths of the entries below the working directory in the order of their characters. -/
def paths (tree : FileTree) : List Text :=
  (tree.contents.map Prod.fst).mergeSort Text.precedes

/-- The path of a location from the root. -/
def absolute (location : Location) : Text :=
  '/' :: Text.join "/" location.reverse

theorem find?_filter_of_ne {location other : Location} (hne : other ≠ location)
    (entries : List (Location × Entry)) :
    ((entries.filter fun entry => entry.1 ≠ location).find? fun entry => entry.1 = other) =
      entries.find? fun entry => entry.1 = other := by
  rw [List.find?_filter]
  congr 1
  funext entry
  by_cases heq : entry.1 = other <;> simp [heq, hne]

theorem find?_filter_self (location : Location) (entries : List (Location × Entry)) :
    ((entries.filter fun entry => entry.1 ≠ location).find? fun entry => entry.1 = location) =
      none := by
  rw [List.find?_filter]
  simp

@[simp]
theorem get?_root (tree : FileTree) : tree.get? [] = some .directory :=
  rfl

theorem get?_erase_self (tree : FileTree) {location : Location} (hne : location ≠ []) :
    (tree.erase location).get? location = none := by
  cases location with
  | nil => contradiction
  | cons name above =>
      exact congrArg (Option.map Prod.snd) (find?_filter_self (name :: above) tree.entries)

theorem get?_erase_of_ne (tree : FileTree) {location other : Location} (hne : other ≠ location) :
    (tree.erase location).get? other = tree.get? other := by
  cases other with
  | nil => rfl
  | cons name above => exact congrArg (Option.map Prod.snd) (find?_filter_of_ne hne tree.entries)

theorem get?_insert_self (tree : FileTree) {location : Location} (hne : location ≠ [])
    (entry : Entry) : (tree.insert location entry).get? location = some entry := by
  cases location with
  | nil => contradiction
  | cons name above => simp [get?, insert]

theorem get?_insert_of_ne (tree : FileTree) {location other : Location} (hne : other ≠ location)
    (entry : Entry) : (tree.insert location entry).get? other = tree.get? other := by
  rw [← get?_erase_of_ne tree hne]
  cases other with
  | nil => rfl
  | cons name above => simp [get?, insert, hne.symm]

end FileTree

end AsmLens
