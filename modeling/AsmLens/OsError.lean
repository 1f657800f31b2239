import AsmLens.Text.Quoted

namespace AsmLens

/-- Why the operating system refuses an operation on files or programs. -/
inductive Errno where
  | noEntry
  | badFormat
  | denied
  | exists
  | notDirectory
  | isDirectory
  | nameTooLong
  | tooManyLinks
  deriving DecidableEq, Repr

namespace Errno

def code : Errno → Nat
  | .noEntry => 2
  | .badFormat => 8
  | .denied => 13
  | .exists => 17
  | .notDirectory => 20
  | .isDirectory => 21
  | .nameTooLong => 36
  | .tooManyLinks => 40

def text : Errno → Text
  | .noEntry => "No such file or directory"
  | .badFormat => "Exec format error"
  | .denied => "Permission denied"
  | .exists => "File exists"
  | .notDirectory => "Not a directory"
  | .isDirectory => "Is a directory"
  | .nameTooLong => "File name too long"
  | .tooManyLinks => "Too many levels of symbolic links"

end Errno

/-- An error of the operating system, or one that a runner reports in its place: it may lack a code,
and a path. -/
structure OsError where
  code : Option Int
  text : Text
  path : Option Text
  deriving DecidableEq, Repr

namespace OsError

def message (error : OsError) : Text :=
  match error.code, error.path with
  | none, _ => error.text
  | some code, none => "[Errno " ++ Text.ofInt code ++ "] " ++ error.text
  | some code, some path =>
      "[Errno " ++ Text.ofInt code ++ "] " ++ error.text ++ ": " ++ path.quoted

end OsError

/-- The error with the path as it was given to the operation that failed. -/
def Errno.at (errno : Errno) (path : Text) : OsError :=
  ⟨some errno.code, errno.text, some path⟩

end AsmLens
