import AsmLens.Path
import AsmLens.Text.Newline

namespace AsmLens

inductive Language where
  | cpp
  | c
  | fortran
  deriving DecidableEq, Repr

namespace Language

def all : List Language :=
  [.cpp, .c, .fortran]

def tag : Language → Text
  | .cpp => "cpp"
  | .c => "c"
  | .fortran => "fortran"

/-- The tag of a file in none of the languages. -/
def unsupportedTag : Text :=
  "unsupported"

def ofTag? (tag : Text) : Option Language :=
  all.find? fun language => language.tag = tag

def suffixes : Language → List Text
  | .cpp => [".cc", ".cpp", ".cxx"]
  | .c => [".c"]
  | .fortran => [".f", ".for", ".f90", ".f95", ".f03", ".f08"]

/-- A name has a suffix also when one line feed stands after it. -/
def hasSuffix (name : Text) (language : Language) : Bool :=
  language.suffixes.any fun suffix => suffix.isSuffixOf name.dropFinalNewline

/-- The language of a source file, by the suffix of its name. -/
def ofFile? (path : Text) : Option Language :=
  all.find? (hasSuffix (Path.ofText path).name)

end Language

end AsmLens
