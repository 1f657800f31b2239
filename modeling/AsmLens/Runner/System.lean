import AsmLens.Runner.Basic

namespace AsmLens

/-- The two ways out of a program. -/
inductive Channel where
  | output
  | errors
  deriving DecidableEq, Repr

/-- What a program has done when it ends: its exit code, what it has written, in order, and the file tree
that it leaves. -/
structure Completion where
  exitCode : Int
  written : List (Channel × List UInt8)
  tree : FileTree

namespace Completion

/-- The bytes that were written on some of the channels. -/
def bytesOn (completion : Completion) (isWanted : Channel → Bool) : List UInt8 :=
  completion.written.flatMap fun part => if isWanted part.1 then part.2 else []

/-- What is captured of a program. Its error output can go into its output as it is written. -/
def reply (completion : Completion) (mergeErrors : Bool) : Reply where
  exitCode := completion.exitCode
  output := Runner.captured (completion.bytesOn fun channel => mergeErrors || channel = .output)
  errorOutput := Runner.captured (completion.bytesOn fun channel => !mergeErrors && channel = .errors)

end Completion

/-- The programs of a system: what comes of starting one on a file tree by its name, with arguments. -/
abbrev System := FileTree → Text → List Text → Except Errno Completion

/-- Starts a program of a system and waits for its end. The words of a call are passed on as they are, and
the program's working directory is its own. -/
def System.answer (system : System) (call : Call) : Except StartError Reply × FileTree :=
  match call.argv with
  | [] => (.error .noWords, call.tree)
  | name :: arguments =>
      if call.argv.any fun word => word.contains '\x00' then
        (.error .nulByte, call.tree)
      else
        match system call.tree name arguments with
        | .error errno => (.error (.os (errno.at name)), call.tree)
        | .ok completion =>
            (.ok (completion.reply call.mergeErrors),
              { completion.tree with workingDirectory := call.tree.workingDirectory })

/-- The runner that has the programs of a system run. -/
def Runner.ofSystem (system : System) : Runner where
  announces := true
  answer _ call := system.answer call

end AsmLens
