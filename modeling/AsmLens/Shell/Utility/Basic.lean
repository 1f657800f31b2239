import AsmLens.Environment
import AsmLens.FileTree.Files
import AsmLens.Shell.Outcome
import AsmLens.Shell.Quoting
import AsmLens.Shell.Utility.Options

namespace AsmLens.Shell

/-- What a program of the system leaves behind: the tree, what it has not read of its input, and what it
has written. -/
structure Effect where
  tree : FileTree
  input : List UInt8
  outcome : Outcome

/-- Starts a program by its words, on the tree and the input that it finds. -/
abbrev Execution := List Text → FileTree → List UInt8 → Except Errno Effect

/-- A program of the system at its start: how it was called and what it finds. -/
structure Invocation where
  name : Text
  arguments : List Text
  tree : FileTree
  input : List UInt8
  /-- Whether the input is that of a file, which can be read again from any place on. -/
  inputIsFile : Bool
  environment : Environment
  /-- The variables that are handed on to other programs. -/
  bindings : List (Text × Text)
  execute : Execution

namespace Invocation

def report (invocation : Invocation) (outcome : Outcome) : Effect :=
  ⟨invocation.tree, invocation.input, outcome⟩

def message (invocation : Invocation) (text : Text) : Text :=
  invocation.name ++ ": " ++ text ++ "\n"

def hint (invocation : Invocation) : Text :=
  "Try '" ++ invocation.name ++ " --help' for more information.\n"

def refuse (invocation : Invocation) (text : Text) (status : Nat) : Effect :=
  invocation.report (.ofError (invocation.message text) status)

/-- Refuses arguments as they are written. -/
def misuse (invocation : Invocation) (text : Text) (status : Nat) : Effect :=
  invocation.report (.ofError (invocation.message text ++ invocation.hint) status)

/-- Goes on with the options of a table, if no other ones are asked for. -/
def reading (invocation : Invocation) (table : String) (status : Nat) (run : Options → Effect) :
    Effect :=
  match Options.read (OptionForm.table table) false {} invocation.arguments with
  | .ok options => run options
  | .error error => invocation.misuse error.message status

/-- Changes the tree for each word in turn. A change that fails is reported. -/
def forEach (invocation : Invocation) (words : List Text)
    (change : FileTree → Text → Except Text FileTree) : Effect :=
  words.foldl
    (fun (effect : Effect) word =>
      match change effect.tree word with
      | .ok tree => { effect with tree }
      | .error text =>
          { effect with
            outcome := effect.outcome.append (.ofError (invocation.message text) 1) })
    (invocation.report {})

def isStandardInput (path : Text) : Bool :=
  path = "-" || path = "/dev/stdin"

/-- What a path names, for a program that reads it; a dash is the standard input. -/
def read (invocation : Invocation) (path : Text) : Except Errno (List UInt8) :=
  if isStandardInput path then .ok invocation.input else invocation.tree.readBytes path

/-- Reports after the input has been read to its end, if it is among the files. -/
def reportRead (invocation : Invocation) (files : List Text) (outcome : Outcome) : Effect :=
  ⟨invocation.tree, if files.any isStandardInput then [] else invocation.input, outcome⟩

end Invocation

/-- The files that a program reads: its operands, or the standard input without any. -/
def orStandardInput (files : List Text) : List Text :=
  if files.isEmpty then [['-']] else files

namespace Invocation

/-- The complaint about a file that cannot be read. -/
def complaint (invocation : Invocation) (path : Text) (errno : Errno) : Outcome :=
  .ofError (invocation.message (shownName path ++ ": " ++ errno.text)) 1

/-- Writes something for each file, and complaints about those that cannot be read. -/
def filter (invocation : Invocation) (files : List Text)
    (change : List UInt8 → List UInt8) : Effect :=
  invocation.reportRead files <| files.foldl
    (fun (outcome : Outcome) path =>
      outcome.append <|
        match invocation.read path with
        | .ok bytes => .ofBytes (change bytes)
        | .error errno => invocation.complaint path errno)
    {}

/-- The bytes of all files that can be read, and the complaints about the others. -/
def readAll (invocation : Invocation) (files : List Text) : List UInt8 × Outcome :=
  files.foldl
    (fun (before : List UInt8 × Outcome) path =>
      match invocation.read path with
      | .ok bytes => (before.1 ++ bytes, before.2)
      | .error errno => (before.1, before.2.append (invocation.complaint path errno)))
    ([], {})

end Invocation

/-- The last name of a path, as `basename` tells it. -/
def lastName (path : Text) : Text :=
  match (Path.ofText path).names.getLast? with
  | some name => name
  | none => if path.head? = some '/' then "/" else path

/-- The lines of bytes with their line feeds. -/
def byteLines (bytes : List UInt8) : List (List UInt8) :=
  (bytes.foldr
    (fun byte lines =>
      match lines with
      | [] => [[byte]]
      | line :: lines => if byte = 10 then [byte] :: line :: lines else (byte :: line) :: lines) [])

/-- The lines of bytes without their line feeds. -/
def bareLines (bytes : List UInt8) : List (List UInt8) :=
  (byteLines bytes).map fun line => if line.getLast? = some 10 then line.dropLast else line

/-- Text filled up with blanks on its left. -/
def rightAligned (width : Nat) (text : Text) : Text :=
  List.replicate (width - text.length) ' ' ++ text

end AsmLens.Shell
