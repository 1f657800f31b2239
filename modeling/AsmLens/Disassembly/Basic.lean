import AsmLens.Text.Basic

namespace AsmLens

/-- What came of running the disassembler; its output is the listing. -/
structure Disassembly where
  commandLine : Text
  exitCode : Int
  output : Text
  errorOutput : Text
  deriving DecidableEq, Repr

namespace Disassembly

def succeeded (disassembly : Disassembly) : Bool :=
  disassembly.exitCode = 0

def failureMessage (exitCode : Int) : Text :=
  "Disassembly failed: disassembler exited with status " ++ Text.ofInt exitCode

end Disassembly

end AsmLens
