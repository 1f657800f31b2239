import AsmLens.Compilation.Run
import AsmLens.Text.Lines
import AsmLens.Toolchain

namespace AsmLens.Disassembly

/-- The disassembler of a system; on macOS the one that takes these flags has a name of its own. -/
def binaryOn (system : Text) : Text :=
  if system = "Darwin" then "gobjdump" else "objdump"

/-- Disassemble code sections with source lines and line numbers, without the bytes of instructions. -/
def flags : List Text :=
  ["-d", "-M", "att", "-Sl", "--no-show-raw-insn"]

def commandLineOf (object : Path) (binary : Text) : Text :=
  Text.join " " (binary :: flags ++ [ShellWords.quote object.toText])

def binaryOf (toolchain : Toolchain) (system : Text) : Text :=
  match toolchain.disassembler with
  | some binary => if binary.isEmpty then binaryOn system else binary
  | none => binaryOn system

/-- Runs the disassembler on an object file. One that cannot be started counts as one that fails and
says why. -/
def run (runner : Runner) (toolchain : Toolchain) (system : Text) (object : Path) :
    Action Disassembly := do
  let binary := binaryOf toolchain system
  let commandLine := commandLineOf object binary
  let argv ← Action.ofExcept ((ShellWords.split commandLine).mapError Failure.split)
  match ← Action.catchOs (Action.call runner argv false) with
  | .error error =>
      Action.log .warning
        ("Disassembler could not be started (binary=" ++ binary ++ " error=" ++ error.message ++ ")")
      pure ⟨commandLine, notStartedCode, [], binary ++ ": " ++ error.message ++ "\n"⟩
  | .ok reply =>
      if reply.exitCode = 0 then
        Action.log .info
          ("Disassembly finished (object_path=" ++ object.toText ++ " lines=" ++
            Text.ofNat reply.output.lines.length ++ ")")
      else
        Action.log .warning
          ("Disassembler failed (exit_code=" ++ Text.ofInt reply.exitCode ++ " stderr=" ++
            reply.errorOutput.strip ++ ")")
      pure ⟨commandLine, reply.exitCode, reply.output, reply.errorOutput⟩

end AsmLens.Disassembly
