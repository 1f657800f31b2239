import AsmLens.Shell.Utility

namespace AsmLens.Shell

/-- What a program of the system is. -/
inductive ProgramKind where
  | shell
  | environment
  | locator
  | utility (run : Invocation → Effect)

/-- A program that is found and ready to run, with the name it was called by. -/
structure Program where
  kind : ProgramKind
  name : Text
  arguments : List Text

namespace Program

def kind? (name : Text) : Option ProgramKind :=
  if ([("sh" : Text), "bash", "dash"]).contains name then some .shell
  else if name = "env" then some .environment
  else if name = "which" then some .locator
  else (utility? name).map .utility

/-- The program of the system that a path leads to. The programs are in directories that a tree need
not hold. -/
def systemKind? (tree : FileTree) (path : Text) : Option ProgramKind :=
  let directories : List Text := ["/bin/", "/usr/bin/"]
  let place := ((tree.locate .lookup path).toOption.map FileTree.absolute).getD path
  (directories.find? fun directory => directory.isPrefixOf place).bind fun directory =>
    kind? (place.drop directory.length)

/-- How many bytes of a file are looked at for its interpreter. -/
def headerLimit : Nat := 256

/-- The path of the interpreter that the first line of a file names, and the words that stand before
the path of the file. All that follows the first blank is one word. A name that does not end
within the header is not read; a file shorter than the header ends with NUL bytes. -/
def interpreter? (bytes : List UInt8) : Option (Text × List Text) :=
  let isBlank (byte : UInt8) : Bool := byte = 32 || byte = 9
  match bytes.take headerLimit with
  | 35 :: 33 :: header =>
      let isWhole := header.contains 10 || bytes.length < headerLimit
      let line := ((header.takeWhile (· ≠ 10)).reverse.dropWhile isBlank).reverse
      let content := line.dropWhile isBlank
      let name := content.takeWhile fun byte => !isBlank byte && byte ≠ 0
      let rest := content.drop name.length
      let extra := ((rest.takeWhile (· ≠ 0)).dropWhile isBlank)
      if content.isEmpty ∧ header.contains 10 then none
      else if rest.isEmpty ∧ !isWhole then none
      else some (Text.decode name, if extra.isEmpty then [] else [Text.decode extra])
  | _ => none

/-- How many files may be the interpreters of one another. -/
def interpreterLimit : Nat := 6

/-- The program at a path. A file that may run has to name its interpreter. -/
def ofPath (tree : FileTree) : Nat → Text → Text → List Text → Except Errno Program
  | 0, path, _, _ =>
      match systemKind? tree path, tree.status path with
      | some _, _ | none, .ok (.file _ true) => .error .tooManyLinks
      | none, .ok _ => .error .denied
      | none, .error errno => .error errno
  | files + 1, path, name, arguments =>
      match systemKind? tree path, tree.status path with
      | some kind, _ => .ok ⟨kind, name, arguments⟩
      | none, .ok (.file bytes true) =>
          match interpreter? bytes with
          | none => .error .badFormat
          | some ([], _) => .error .denied
          | some (interpreter, extra) =>
              ofPath tree files interpreter interpreter (extra ++ path :: arguments)
      | none, .ok _ => .error .denied
      | none, .error errno => .error errno

/-- The directories that a search path names, or those that are searched without one. -/
def searched : Option Text → List Text
  | none => ["/usr/bin", "/bin"]
  | some path => Text.cut ':' path

def isAbsence (errno : Errno) : Bool :=
  errno = .noEntry || errno = .notDirectory

/-- The path of a name in a directory. One without a name is the working directory. -/
def pathIn (directory name : Text) : Text :=
  if directory.isEmpty ∨ directory.getLast? = some '/' then directory ++ name
  else directory ++ "/" ++ name

def ofDirectory (tree : FileTree) (name : Text) (arguments : List Text) (directory : Text) :
    Except Errno Program :=
  ofPath tree interpreterLimit (pathIn directory name) name arguments

/-- The first program of a name in some directories, after an error in those before. Without one the
first error counts that is not about absence, or else the last. -/
def searchAfter (tree : FileTree) (name : Text) (arguments : List Text) :
    Errno → List Text → Except Errno Program
  | before, [] => .error before
  | before, directory :: rest =>
      match ofDirectory tree name arguments directory with
      | .ok program => .ok program
      | .error errno =>
          searchAfter tree name arguments (if isAbsence before then errno else before) rest

def search (tree : FileTree) (directories : List Text) (name : Text) (arguments : List Text) :
    Except Errno Program :=
  searchAfter tree name arguments .noEntry directories

/-- A program by the first of its words: a path if there is a slash in it, else a name. -/
def ofWords (tree : FileTree) (directories : List Text) (name : Text) (arguments : List Text) :
    Except Errno Program :=
  if name.contains '/' then ofPath tree interpreterLimit name name arguments
  else search tree directories name arguments

end Program

end AsmLens.Shell
