import AsmLens.ShellWords
import AsmLens.Toolchain

namespace AsmLens

/-- One run of a compiler, ready to be made. -/
structure CompileCommand where
  language : Language
  compiler : Text
  flags : Text
  input : Path
  output : Path
  line : Text
  deriving DecidableEq, Repr

namespace CompileCommand

/-- Compiler and flags stand as they are configured, so that they may hold several words; the paths
are quoted. Blank parts are left out. -/
def lineOf (toolchain : Toolchain) (language : Language) (input output : Text) : Text :=
  let parts : List Text :=
    [toolchain.compiler language, toolchain.flags language, "-g", "-c", "-o",
      ShellWords.quote output, ShellWords.quote input]
  Text.join " " (parts.filter fun part => !part.strip.isEmpty)

def make (toolchain : Toolchain) (language : Language) (input output : Text) : CompileCommand where
  language
  compiler := toolchain.compiler language
  flags := toolchain.flags language
  input := Path.ofText input
  output := Path.ofText output
  line := lineOf toolchain language input output

/-- The language with a tag, for compiling some file. -/
def languageFor (tag input : Text) : Except Failure Language :=
  match Language.ofTag? tag with
  | some language => .ok language
  | none =>
      .error (if tag = Language.unsupportedTag then .unsupportedFile input else .noCompiler tag)

def makeLogged (toolchain : Toolchain) (language : Language) (input output : Text) :
    Action CompileCommand := do
  let command := make toolchain language input output
  Action.log .debug ("Compile command built (command_line=" ++ command.line ++ ")")
  pure command

end CompileCommand

end AsmLens
