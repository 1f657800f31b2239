import AsmLens.Arguments.Basic

namespace AsmLens.Arguments

def programName : Text :=
  "lineasm"

def usage : Text :=
  Text.join "\n"
    ["usage: lineasm [-h] [--line LINE] [--presenter \x7bplain,rich\x7d]",
      "               [--context CONTEXT] [--format \x7blisting,json\x7d] [--output OUTPUT]",
      "               [--object-path OBJECT_PATH] [--verbose]",
      "               source",
      ""]

def help : Text :=
  usage ++ Text.join "\n"
    ["",
      "Compile one C, C++ or Fortran file and show the disassembly for a source line.",
      "",
      "positional arguments:",
      "  source                Source file, optionally as FILE:LINE.",
      "",
      "options:",
      "  -h, --help            show this help message and exit",
      "  --line LINE           1-based source line (default 1).",
      "  --presenter \x7bplain,rich\x7d",
      "                        Listing presenter; overrides LINEASM_PRESENTER.",
      "  --context CONTEXT     Show only N lines around the matched line (0 shows",
      "                        all).",
      "  --format \x7blisting,json\x7d",
      "                        Output format.",
      "  --output OUTPUT       Optional output file path for raw JSON when --format",
      "                        json is used.",
      "  --object-path OBJECT_PATH",
      "                        Object file path; defaults to a fixed per-user temp",
      "                        path.",
      "  --verbose             Enable debug logging.",
      ""]

/-- The usage and the error, as they are written when a command line is refused. -/
def refusal (error : ArgumentError) : Text :=
  usage ++ programName ++ ": error: " ++ error.message ++ "\n"

end AsmLens.Arguments
