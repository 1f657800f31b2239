import AsmLens.Text.Basic

namespace AsmLens

/-- What came of running the compiler. -/
structure Compilation where
  exitCode : Int
  output : Text
  objectExists : Bool
  deriving DecidableEq, Repr

namespace Compilation

def succeeded (compilation : Compilation) : Bool :=
  compilation.exitCode = 0 && compilation.objectExists

def failureMessage (compilation : Compilation) : Text :=
  "Compilation failed: " ++
    if compilation.exitCode = 0 then ("compiler produced no object file" : Text)
    else "compiler exited with status " ++ Text.ofInt compilation.exitCode

end Compilation

end AsmLens
