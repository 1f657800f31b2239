import AsmLens.Arguments.Basic
import AsmLens.Arguments.Help
import AsmLens.Arguments.Read
import AsmLens.CommandLine
import AsmLens.Compilation.Basic
import AsmLens.Compilation.Run
import AsmLens.CompileCommand
import AsmLens.Disassembly.Basic
import AsmLens.Disassembly.Run
import AsmLens.Environment
import AsmLens.Failure
import AsmLens.FileTree.Basic
import AsmLens.FileTree.Files
import AsmLens.FileTree.Resolve
import AsmLens.FileTree.Walk
import AsmLens.Inspection
import AsmLens.Json.Basic
import AsmLens.Json.Reader
import AsmLens.Language
import AsmLens.Listing.Line
import AsmLens.Listing.Match
import AsmLens.Log
import AsmLens.Main
import AsmLens.ObjectFile
import AsmLens.OsError
import AsmLens.Path
import AsmLens.Proofs.CommandWords
import AsmLens.Proofs.CompiledName
import AsmLens.Proofs.DefaultPlace
import AsmLens.Proofs.Display
import AsmLens.Proofs.Ending
import AsmLens.Proofs.Escape
import AsmLens.Proofs.FileTree.LastName
import AsmLens.Proofs.FileTree.LinkPath
import AsmLens.Proofs.FileTree.Place
import AsmLens.Proofs.FileTree.Preparing
import AsmLens.Proofs.FileTree.RealPath
import AsmLens.Proofs.FileTree.Resolve
import AsmLens.Proofs.FileTree.Route
import AsmLens.Proofs.FileTree.Trail
import AsmLens.Proofs.FileTree.Writing
import AsmLens.Proofs.FirstPlace
import AsmLens.Proofs.Hindrance
import AsmLens.Proofs.HostPrograms
import AsmLens.Proofs.Inquiry
import AsmLens.Proofs.JsonText
import AsmLens.Proofs.LineNumber
import AsmLens.Proofs.LineOfMatch
import AsmLens.Proofs.LineSpan
import AsmLens.Proofs.ListingLines
import AsmLens.Proofs.LiteralMatch
import AsmLens.Proofs.MarkedLine
import AsmLens.Proofs.MarkerReference
import AsmLens.Proofs.NameSuffix
import AsmLens.Proofs.ObjectPlace
import AsmLens.Proofs.PathText
import AsmLens.Proofs.Protocol
import AsmLens.Proofs.RawLine
import AsmLens.Proofs.Rejection
import AsmLens.Proofs.Report
import AsmLens.Proofs.Settings
import AsmLens.Proofs.Shell.Arithmetic
import AsmLens.Proofs.Shell.Lines
import AsmLens.Proofs.Shell.Pattern
import AsmLens.Proofs.Shell.Regex
import AsmLens.Proofs.ShellWords
import AsmLens.Proofs.ShownWindow
import AsmLens.Proofs.SourceFile
import AsmLens.Proofs.SourcePosition
import AsmLens.Proofs.StaleObject
import AsmLens.Proofs.StrayEnd
import AsmLens.Proofs.SystemRunner
import AsmLens.Proofs.TrimmedWords
import AsmLens.Runner.Basic
import AsmLens.Runner.Host
import AsmLens.Runner.Scripted
import AsmLens.Runner.System
import AsmLens.Session
import AsmLens.Shell.Arithmetic
import AsmLens.Shell.Builtin
import AsmLens.Shell.Builtin.Input
import AsmLens.Shell.Builtin.Naming
import AsmLens.Shell.Builtin.Processes
import AsmLens.Shell.Builtin.Variables
import AsmLens.Shell.Condition
import AsmLens.Shell.Escape
import AsmLens.Shell.Expansion
import AsmLens.Shell.Format
import AsmLens.Shell.Lexer
import AsmLens.Shell.Locating
import AsmLens.Shell.Machine
import AsmLens.Shell.Outcome
import AsmLens.Shell.Pattern
import AsmLens.Shell.Program
import AsmLens.Shell.Quoting
import AsmLens.Shell.Reader
import AsmLens.Shell.Real
import AsmLens.Shell.Redirection
import AsmLens.Shell.Regex.Basic
import AsmLens.Shell.Regex.Match
import AsmLens.Shell.Regex.Reader
import AsmLens.Shell.RuleProgram.Machine
import AsmLens.Shell.RuleProgram.Reader
import AsmLens.Shell.RuleProgram.Record
import AsmLens.Shell.RuleProgram.Rules
import AsmLens.Shell.RuleProgram.Run
import AsmLens.Shell.RuleProgram.Syntax
import AsmLens.Shell.RuleProgram.Token
import AsmLens.Shell.RuleProgram.Value
import AsmLens.Shell.Run
import AsmLens.Shell.Script
import AsmLens.Shell.Settings
import AsmLens.Shell.Signal
import AsmLens.Shell.StreamEditor.Basic
import AsmLens.Shell.StreamEditor.Editor
import AsmLens.Shell.StreamEditor.Reader
import AsmLens.Shell.StreamEditor.Run
import AsmLens.Shell.Token
import AsmLens.Shell.Utility
import AsmLens.Shell.Utility.Basic
import AsmLens.Shell.Utility.Bytes
import AsmLens.Shell.Utility.Calendar
import AsmLens.Shell.Utility.Checksum
import AsmLens.Shell.Utility.Condition
import AsmLens.Shell.Utility.Copying
import AsmLens.Shell.Utility.Counting
import AsmLens.Shell.Utility.Difference
import AsmLens.Shell.Utility.Digest
import AsmLens.Shell.Utility.Environment
import AsmLens.Shell.Utility.Expression
import AsmLens.Shell.Utility.Fields
import AsmLens.Shell.Utility.Finding
import AsmLens.Shell.Utility.Launching
import AsmLens.Shell.Utility.Layout
import AsmLens.Shell.Utility.Listing
import AsmLens.Shell.Utility.Mode
import AsmLens.Shell.Utility.Names
import AsmLens.Shell.Utility.Options
import AsmLens.Shell.Utility.Searching
import AsmLens.Shell.Utility.Sorting
import AsmLens.Shell.Utility.Splitting
import AsmLens.Shell.Utility.Temporary
import AsmLens.Shell.Utility.Transfer
import AsmLens.Shell.Utility.Tree
import AsmLens.Shell.Utility.Writing
import AsmLens.ShellWords
import AsmLens.SourceArgument
import AsmLens.SourceLocation
import AsmLens.Text.Basic
import AsmLens.Text.Blank
import AsmLens.Text.Cells
import AsmLens.Text.Digit
import AsmLens.Text.Lines
import AsmLens.Text.Newline
import AsmLens.Text.Number
import AsmLens.Text.Octets
import AsmLens.Text.Printable
import AsmLens.Text.Quoted
import AsmLens.Text.Search
import AsmLens.Text.Units
import AsmLens.Text.Utf8
import AsmLens.Toolchain
import AsmLens.View.Diagnostics
import AsmLens.View.Plain
import AsmLens.View.Report
import AsmLens.View.Styled
import AsmLens.View.Window
