import AsmLens.CompileCommand
import AsmLens.Disassembly.Run
import AsmLens.FileTree.Resolve
import AsmLens.Listing.Match
import AsmLens.ObjectFile
import AsmLens.SourceLocation

namespace AsmLens

/-- What a run for one source line has brought to light. -/
structure Inspection where
  location : SourceLocation
  command : CompileCommand
  compilation : Compilation
  disassembly : Disassembly
  position : Option ListingMatch
  deriving DecidableEq, Repr

/-- Looks a source line up in a listing and logs where it is. -/
def ListingMatch.findLogged (listing sourceLine marker : Text) : Action (Option ListingMatch) := do
  let position := find? listing sourceLine marker
  match position with
  | some found =>
      Action.log .info
        ("Listing position found (matched_by=" ++ found.matchedBy.tag ++ " offset=" ++
          Text.ofNat found.offset ++ " line_index=" ++ Text.ofNat found.lineIndex ++ ")")
  | none => Action.log .warning ("Source line not found in listing (marker=" ++ marker ++ ")")
  pure position

namespace Inspection

def listing (inspection : Inspection) : Text :=
  inspection.disassembly.output

/-- Compiles a source file, disassembles the object and looks for the source line in the listing. The
source file is resolved before the object's place is cleared, and cleared before the compiler runs. -/
def run (runner : Runner) (system : Text) (toolchain : Toolchain) (location : SourceLocation)
    (object : Path) : Action Inspection := do
  let path := location.path.toText
  match ← Language.ofFileLogged path with
  | none => throw (.unsupportedFile path)
  | some language =>
      let session ← get
      let input ← Action.ofExcept (session.tree.resolve location.path)
      let command ← CompileCommand.makeLogged toolchain language input.toText object.toText
      Action.onTree (ObjectFile.prepare object)
      let compilation ← Compilation.run runner command.line object
      if compilation.succeeded then
        let disassembly ← Disassembly.run runner toolchain system object
        if disassembly.succeeded then
          let position ← ListingMatch.findLogged disassembly.output location.text
            (ListingMatch.markerOf location.path location.line)
          pure ⟨location, command, compilation, disassembly, position⟩
        else
          throw (.disassembly disassembly)
      else
        throw (.compilation compilation)

end Inspection

end AsmLens
