import AsmLens.Inspection
import AsmLens.Json.Basic
import AsmLens.Listing.Line

namespace AsmLens

/-! The fields of every object stand in alphabetical order. -/

def ListingLine.toJson (line : ListingLine) : Json :=
  .object [("is_instruction", .bool line.isInstruction), ("text", .text line.text)]

def ListingMatch.toJson (found : ListingMatch) : Json :=
  .object
    [("line_index", .number found.lineIndex),
      ("matched_by", .text found.matchedBy.tag),
      ("needle", .text found.needle),
      ("offset", .number found.offset)]

def SourceLocation.toJson (location : SourceLocation) : Json :=
  .object
    [("file_path", .text location.path.toText),
      ("line", .number location.line),
      ("text", .text location.text)]

namespace Inspection

def toJson (inspection : Inspection) : Json :=
  .object
    [("compile_command", .text inspection.command.line),
      ("disassemble_command", .text inspection.disassembly.commandLine),
      ("language", .text inspection.command.language.tag),
      ("lines", .array (inspection.listing.listingLines.map ListingLine.toJson)),
      ("location", inspection.location.toJson),
      ("match", (inspection.position.map ListingMatch.toJson).getD .null),
      ("object_path", .text inspection.command.output.toText)]

/-- The inspection as a JSON text without a line feed at its end. -/
def report (inspection : Inspection) : Text :=
  inspection.toJson.render 0

/-- The room for directories that is left in a run when its report is written, where four calls are
open. -/
def reportRoom : Nat :=
  roomForCalls 4 TreeAction.callsToMake

/-- Writes the report to a file, with the directories above it. -/
def writeReport (inspection : Inspection) (path : Path) : TreeAction Unit := do
  TreeAction.makeDirectoriesWithin reportRoom path.parent
  TreeAction.writeText path inspection.report

end Inspection

end AsmLens
