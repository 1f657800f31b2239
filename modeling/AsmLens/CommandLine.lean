import AsmLens.Arguments.Help
import AsmLens.Arguments.Read
import AsmLens.SourceArgument
import AsmLens.View.Diagnostics
import AsmLens.View.Report

namespace AsmLens

inductive ExitCode where
  | success
  | failed
  | rejected
  deriving DecidableEq, Repr

def ExitCode.toNat : ExitCode → Nat
  | .success => 0
  | .failed => 1
  | .rejected => 2

/-- How a run ended and what it has written: to the streams it was given, and, about its arguments,
to those of the process. -/
structure Ending where
  exitCode : ExitCode
  output : Text := []
  errors : Text := []
  help : Text := []
  usage : Text := []
  deriving DecidableEq, Repr

namespace Action

/-- The result of a step or the failure that ended it. -/
def attempt {α : Type} (action : Action α) : Action (Except Failure α) :=
  fun session =>
    let (result, changed) := action session
    (.ok result, changed)

def raiseThreshold : Action Unit :=
  modify fun session => { session with threshold := .debug }

end Action

namespace CommandLine

def presented (kind : PresenterKind) (view : View) : Text :=
  match kind with
  | .plain => view.plain
  | .rich => view.styled

/-- What is said of a source line that the listing does not show. -/
def notFound (location : SourceLocation) : Text :=
  "Line " ++ Text.ofInt location.line ++ " of " ++ location.path.name ++
    " not found in disassembly; showing full listing.\n"

/-- The presenter that the settings name, or the one of the toolchain. -/
def presenter (settings : Settings) (toolchain : Toolchain) : Except Failure PresenterKind :=
  match settings.presenter with
  | .absent => .ok toolchain.presenter
  | .nothing => .error (.unknownPresenter "[]")
  | .value kind => .ok kind

/-- Writes out an inspection as the settings ask for. -/
def present (settings : Settings) (toolchain : Toolchain) (context : Int)
    (inspection : Inspection) : Action Ending := do
  let errors := if inspection.position.isNone then notFound inspection.location else []
  match settings.format with
  | .listing =>
      let kind ← Action.ofExcept (presenter settings toolchain)
      let view : View :=
        ⟨inspection.listing, inspection.position.map fun found => found.lineIndex, context⟩
      pure { exitCode := .success, output := presented kind view, errors }
  | .json =>
      match settings.output.filter (· ≠ []) with
      | none => pure { exitCode := .success, output := inspection.report ++ "\n", errors }
      | some path =>
          match ← Action.catchOs (Action.onTree (inspection.writeReport (Path.ofText path))) with
          | .ok () => pure { exitCode := .success, errors }
          | .error error =>
              Action.log .warning
                ("Failed to write JSON output file (output_path=" ++ path ++ " error=" ++
                  error.message ++ ")")
              pure
                { exitCode := .rejected
                  errors := errors ++ "Failed to write JSON output file: " ++ path ++ "\n" }

/-- Turns what came of an inspection into the end of the run. Failures that have no exit code end it
as they are. -/
def conclude (settings : Settings) (toolchain : Toolchain) (context : Int) :
    Except Failure Inspection → Action Ending
  | .ok inspection => present settings toolchain context inspection
  | .error (.unsupportedFile path) =>
      pure { exitCode := .rejected, errors := (Failure.unsupportedFile path).message ++ "\n" }
  | .error (.compilation result) => pure { exitCode := .failed, errors := View.diagnostics result }
  | .error (.disassembly result) =>
      pure { exitCode := .failed, errors := (Failure.disassembly result).message ++ "\n" }
  | .error (.os error) => do
      Action.log .warning ("Object path could not be prepared (error=" ++ error.message ++ ")")
      pure { exitCode := .failed, errors := "Cannot prepare object file: " ++ error.message ++ "\n" }
  | .error failure => throw failure

/-- How many lines to show on either side of the source line; without the setting all are shown. -/
def context (settings : Settings) : Except Failure Int :=
  match settings.context with
  | .absent => .ok 0
  | .nothing => .error .missingNumber
  | .value context => .ok context

/-- The object file that the settings name, or the one of the user. -/
def objectPath (host : Host) (settings : Settings) : Except Failure Path :=
  match settings.objectPath.filter (· ≠ []) with
  | some path => .ok (Path.ofText path)
  | none => ObjectFile.defaultPathOn host

/-- The file that the arguments name, and the line if they give one as they should. -/
def position (tree : FileTree) (arguments : Arguments) : Except Failure (Path × Option Int) :=
  match arguments.settings.line with
  | .nothing => .ok (Path.ofText arguments.source, none)
  | .absent => (SourceArgument.read tree arguments.source none).map (Prod.map id some)
  | .value line => (SourceArgument.read tree arguments.source (some line)).map (Prod.map id some)

/-- Reads a source line. The file is read before the line has to be a number. -/
def locate (tree : FileTree) (path : Path) (line? : Option Int) : Except Failure SourceLocation :=
  match line? with
  | some line => SourceLocation.read tree path line
  | none => do
      let _ ← SourceLocation.content tree path
      .error .missingNumber

/-- Inspects a source line, once it is known where the object file is to be. -/
def inspectAt (host : Host) (runner : Runner) (toolchain : Toolchain) (settings : Settings)
    (location : SourceLocation) : Action Inspection := do
  let object ← Action.ofExcept (objectPath host settings)
  Inspection.run runner host.system toolchain location object

/-- Inspects the source line that the arguments name. -/
def inspect (host : Host) (runner : Runner) (toolchain : Toolchain) (context : Int)
    (arguments : Arguments) : Action Ending := do
  let settings := arguments.settings
  let session ← get
  let (path, line?) ← Action.ofExcept (position session.tree arguments)
  match ← Language.ofFileLogged path.toText with
  | none => pure { exitCode := .rejected }
  | some _ =>
      match locate session.tree path line? with
      | .error (.source error) =>
          Action.log .warning ("Source location rejected (error=" ++ error.message ++ ")")
          pure { exitCode := .rejected, errors := error.message ++ "\n" }
      | .error failure => throw failure
      | .ok location =>
          let result ← Action.attempt (inspectAt host runner toolchain settings location)
          conclude settings toolchain context result

/-- Runs the tool on the words of a command line. The toolchain comes from `environment`. -/
def run (host : Host) (environment : Environment) (runner : Runner) (argv : List Text) :
    Action Ending := do
  match Arguments.read argv with
  | .error stop =>
      Action.log .warning ("Argument parsing failed (argv=" ++ Text.quotedList argv ++ ")")
      match stop with
      | .help => pure { exitCode := .rejected, help := Arguments.help }
      | .refused error => pure { exitCode := .rejected, usage := Arguments.refusal error }
  | .ok arguments =>
      if arguments.settings.verbose then
        Action.raiseThreshold
      let context ← Action.ofExcept (context arguments.settings)
      if context < 0 then
        pure { exitCode := .rejected, errors := "context must be >= 0\n" }
      else
        match ← Action.attempt (Toolchain.load environment) with
        | .ok toolchain => inspect host runner toolchain context arguments
        | .error failure =>
            Action.log .warning ("Invalid environment configuration (error=" ++ failure.message ++ ")")
            pure
              { exitCode := .rejected
                errors := "Invalid configuration: " ++ failure.message ++ "\n" }

end CommandLine

end AsmLens
