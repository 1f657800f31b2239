import AsmLens.Environment
import AsmLens.FileTree.Files

namespace AsmLens.ObjectFile

def fileName : Text :=
  "lineasm.o"

/-- The object file of a user, in a directory named for the user. -/
def defaultPath (temporaryDirectory login : Text) : Path :=
  ((Path.ofText temporaryDirectory).append (Path.ofText ("lineasm-" ++ login))).append
    (Path.ofText fileName)

/-- The default path on a machine. The user is looked up before the temporary directory. -/
def defaultPathOn (host : Host) : Except Failure Path := do
  let login ← host.login
  let temporaryDirectory ← host.temporaryDirectory.mapError Failure.os
  return defaultPath temporaryDirectory login

/-- Makes the directory of an object file and removes what an earlier run has left in its place. There is
room for so many directories above each other. -/
def prepareWithin (room : Nat) (path : Path) : TreeAction Unit := do
  TreeAction.makeDirectoriesWithin room path.parent
  TreeAction.remove path

/-- The room that is left in a run, where five calls are open. -/
def room : Nat :=
  roomForCalls 5 TreeAction.callsToMake

def prepare (path : Path) : TreeAction Unit :=
  prepareWithin room path

end AsmLens.ObjectFile
