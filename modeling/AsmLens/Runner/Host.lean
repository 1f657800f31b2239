import AsmLens.Runner.System
import AsmLens.Shell.Run

/-!
# A host of its own

A runner takes whatever programs a system has. Where no other ones can be started, those of a small shell
stand for them, so that a run can be carried out on a file tree alone.
-/

namespace AsmLens

namespace FileTree

/-- The directories and devices of a host in a tree that holds its working directory. Its programs are
told by their paths alone. -/
def onHost (tree : FileTree) : FileTree :=
  let entries : List (Location × Entry) := [
    (["usr"], .directory), (["bin", "usr"], .directory), (["bin"], .link "usr/bin"),
    (["etc"], .directory), (["root"], .directory), (["dev"], .directory), (["null", "dev"], .file [] false)]
  entries.foldl
    (fun tree entry => if (tree.get? entry.1).isNone then tree.insert entry.1 entry.2 else tree)
    tree

end FileTree

namespace Shell

/-- What has left a shell by its channels. -/
def Machine.completion (machine : Machine) : Completion where
  exitCode := machine.exitCode
  written := machine.written.filterMap fun part =>
    match part.1 with
    | .channel channel => some (channel, part.2)
    | _ => none
  tree := machine.tree

/-- The variables that programs of the host find, among them the home directory of their user. -/
def withHome (bindings : List (Text × Text)) : List (Text × Text) :=
  if bindings.any fun entry => entry.1 = ['H', 'O', 'M', 'E'] then bindings
  else ("HOME", "/root") :: bindings

/-- The program that a name stands for where some variables are set. -/
def programOf (bindings : List (Text × Text)) (tree : FileTree) (name : Text) (arguments : List Text) :
    Except Errno Program :=
  Program.ofWords tree (Program.searched (Environment.ofList bindings "PATH")) name arguments

/-- A shell and the utilities around it, which are handed some variables. -/
def system (bindings : List (Text × Text)) : System := fun tree name arguments =>
  (programOf bindings tree name arguments).map fun program =>
    (runProgram (withHome bindings) tree program).completion

end Shell

/-- The runner of a host whose programs are those of a shell. -/
def Runner.host (bindings : List (Text × Text)) : Runner :=
  .ofSystem (Shell.system bindings)

end AsmLens
