import AsmLens.Session
import AsmLens.ShellWords

namespace AsmLens

/-- The exit code that stands for a program which could not be started. -/
def notStartedCode : Int := 127

namespace Compilation

/-- Runs a compiler and looks whether its object file is there. A compiler that cannot be started
counts as one that fails and says why. -/
def run (runner : Runner) (commandLine : Text) (object : Path) : Action Compilation := do
  let argv ← Action.ofExcept ((ShellWords.split commandLine).mapError Failure.split)
  match ← Action.catchOs (Action.call runner argv true) with
  | .error error =>
      Action.log .warning
        ("Compiler could not be started (argv=" ++ Text.quotedList argv ++ " error=" ++
          error.message ++ ")")
      let objectExists ← isThere
      pure ⟨notStartedCode, argv.headD commandLine ++ ": " ++ error.message ++ "\n", objectExists⟩
  | .ok reply =>
      let objectExists ← isThere
      Action.log .info
        ("Compile finished (exit_code=" ++ Text.ofInt reply.exitCode ++ " object_exists=" ++
          Text.ofBool objectExists ++ " object_path=" ++ object.toText ++ ")")
      pure ⟨reply.exitCode, reply.output, objectExists⟩
where
  isThere : Action Bool := do
    let session ← get
    Action.ofExcept ((session.tree.isThere object).mapError Failure.os)

end Compilation

end AsmLens
