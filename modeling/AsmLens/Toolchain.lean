import AsmLens.Environment
import AsmLens.Language
import AsmLens.Session

namespace AsmLens

inductive PresenterKind where
  | plain
  | rich
  deriving DecidableEq, Repr

namespace PresenterKind

def all : List PresenterKind :=
  [.plain, .rich]

def name : PresenterKind → Text
  | .plain => "plain"
  | .rich => "rich"

def ofName (name : Text) : Except Failure PresenterKind :=
  match all.find? fun kind => kind.name = name with
  | some kind => .ok kind
  | none => .error (.unknownPresenter name)

end PresenterKind

/-- The compilers with their flags, a disassembler in place of the system's own, and the presenter. -/
structure Toolchain where
  cCompiler : Text := "cc"
  cxxCompiler : Text := "c++"
  fortranCompiler : Text := "gfortran"
  cFlags : Text := "-march=native"
  cxxFlags : Text := "-march=native"
  fortranFlags : Text := "-march=native"
  disassembler : Option Text := none
  presenter : PresenterKind := .plain
  deriving DecidableEq, Repr

namespace Toolchain

def compiler (toolchain : Toolchain) : Language → Text
  | .c => toolchain.cCompiler
  | .cpp => toolchain.cxxCompiler
  | .fortran => toolchain.fortranCompiler

def flags (toolchain : Toolchain) : Language → Text
  | .c => toolchain.cFlags
  | .cpp => toolchain.cxxFlags
  | .fortran => toolchain.fortranFlags

def compilerFor (toolchain : Toolchain) (tag : Text) : Except Failure Text :=
  match Language.ofTag? tag with
  | some language => .ok (toolchain.compiler language)
  | none => .error (.noCompiler tag)

def flagsFor (toolchain : Toolchain) (tag : Text) : Except Failure Text :=
  match Language.ofTag? tag with
  | some language => .ok (toolchain.flags language)
  | none => .error (.noFlags tag)

/-- Each setting has a variable of its own. -/
def ofEnvironment (environment : Environment) : Except Failure Toolchain := do
  let presenter ← PresenterKind.ofName (environment.wordOr "LINEASM_PRESENTER" "plain")
  let disassembler := environment.wordOr "LINEASM_OBJDUMP" ""
  pure
    { cCompiler := environment.wordOr "CC" "cc"
      cxxCompiler := environment.wordOr "CXX" "c++"
      fortranCompiler := environment.wordOr "FORTRAN" "gfortran"
      cFlags := environment.flagsOr "CFLAGS" "-march=native"
      cxxFlags := environment.flagsOr "CXXFLAGS" "-march=native"
      fortranFlags := environment.flagsOr "FFLAGS" "-march=native"
      disassembler := if disassembler.isEmpty then none else some disassembler
      presenter }

/-- The settings with their values between quotes, as the log shows them. -/
def description (toolchain : Toolchain) : Text :=
  let settings : List (Text × Text) :=
    [("c_compiler", toolchain.cCompiler.quoted),
      ("cxx_compiler", toolchain.cxxCompiler.quoted),
      ("fortran_compiler", toolchain.fortranCompiler.quoted),
      ("c_flags", toolchain.cFlags.quoted),
      ("cxx_flags", toolchain.cxxFlags.quoted),
      ("fortran_flags", toolchain.fortranFlags.quoted),
      ("disassembler", (toolchain.disassembler.map Text.quoted).getD "None"),
      ("presenter", toolchain.presenter.name.quoted)]
  "ToolchainConfig(" ++
    Text.join ", " (settings.map fun setting => setting.1 ++ "=" ++ setting.2) ++ ")"

def load (environment : Environment) : Action Toolchain := do
  let toolchain ← Action.ofExcept (ofEnvironment environment)
  Action.log .debug ("Toolchain configuration loaded (config=" ++ toolchain.description ++ ")")
  pure toolchain

end Toolchain

/-- The language of a source file, with a warning where it has none. -/
def Language.ofFileLogged (path : Text) : Action (Option Language) := do
  let language? := Language.ofFile? path
  if language?.isNone then
    Action.log .warning ("Unsupported file type (file_path=" ++ path ++ ")")
  pure language?

end AsmLens
