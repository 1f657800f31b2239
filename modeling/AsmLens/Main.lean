import AsmLens.CommandLine
import AsmLens.Runner.Host

/-! The program: a snapshot of the working directory goes into a run, and what the run has changed goes
back to the disk. -/

namespace AsmLens.Main

def pathOf (location : Location) : String :=
  String.ofList (FileTree.absolute location)

/-- The variables that a run looks at. -/
def variableNames : List String :=
  ["CC", "CXX", "FORTRAN", "CFLAGS", "CXXFLAGS", "FFLAGS", "LINEASM_OBJDUMP", "LINEASM_PRESENTER",
    "LOGNAME", "USER", "LNAME", "USERNAME"]

def bindings : IO (List (Text × Text)) :=
  variableNames.filterMapM fun name => do
    return (← IO.getEnv name).map fun value => (name.toList, value.toList)

/-- The number of the user that the status of a process tells. -/
def userNumber? (status : Text) : Option Nat :=
  (Text.cut '\n' status).findSome? fun line =>
    match Text.cut '\t' line with
    | label :: number :: _ => if label = "Uid:" then (String.ofList number).toNat? else none
    | _ => none

/-- The account with a number, named as in a table whose lines have fields between colons. -/
def accountIn (table : Text) (number : Nat) : Account :=
  let name? := (Text.cut '\n' table).findSome? fun line =>
    match Text.cut ':' line with
    | name :: _ :: found :: _ =>
        if (String.ofList found).toNat? = some number then some name else none
    | _ => none
  (name?.map Account.named).getD (.numbered number)

/-- What a file holds; nothing where it cannot be read. -/
def contentOf (path : String) : IO Text := do
  try
    return (← IO.FS.readFile path).toList
  catch _ =>
    return []

def account : IO Account := do
  match userNumber? (← contentOf "/proc/self/status") with
  | some number => return accountIn (← contentOf "/etc/passwd") number
  | none => throw (IO.userError "the user of this process is not known")

/-- Where temporary files can go, the place to be tried first at the beginning. -/
def temporaryDirectories (here : Text) : IO (List Text) := do
  let named ← ["TMPDIR", "TEMP", "TMP"].filterMapM fun name => IO.getEnv name
  let usual : List Text := ["/tmp", "/var/tmp", "/usr/tmp", here]
  return ((named.filter (· ≠ "")).map String.toList ++ usual).map fun directory =>
    ((Path.ofText here).append (Path.ofText directory)).collapse.toText

/-- Files can be written in a directory and removed again. -/
def isUsable (directory : Text) : IO Bool := do
  let probe := String.ofList (directory ++ "/lineasm-probe")
  try
    IO.FS.writeFile probe ""
    IO.FS.removeFile probe
    return true
  catch _ =>
    return false

def temporaryDirectory (here : Text) : IO (Except OsError Text) := do
  let directories ← temporaryDirectories here
  match ← directories.findM? isUsable with
  | some directory => return .ok directory
  | none =>
      let text := "No usable temporary directory found in " ++ Text.quotedList directories
      return .error ⟨some Errno.noEntry.code, text, none⟩

def host (here : Text) : IO Host := do
  return {
    bindings := ← bindings
    temporaryDirectory := ← temporaryDirectory here
    account := ← account
    system := (← contentOf "/proc/sys/kernel/ostype").strip }

/-- A file that names its interpreter counts as executable. -/
def entryOfFile (bytes : ByteArray) : Entry :=
  .file bytes.toList (Shell.Program.interpreter? bytes.toList).isSome

/-- Puts what is on the disk below a directory into a tree. -/
partial def snapshot (tree : FileTree) (location : Location) (directory : IO.FS.DirEntry) :
    IO FileTree := do
  let mut filled := tree
  for found in ← directory.path.readDir do
    let place := found.fileName.toList :: location
    match (← found.path.metadata).type with
    | .dir => filled ← snapshot (filled.insert place .directory) place found
    | .file => filled := filled.insert place (entryOfFile (← IO.FS.readBinFile found.path))
    | _ => pure ()
  return filled

/-- Brings the disk from one tree to another. -/
def store (before after : FileTree) : IO Unit := do
  for (location, entry) in after.entries.reverse do
    if before.get? location ≠ some entry then
      match entry with
      | .directory => IO.FS.createDirAll (pathOf location)
      | .file bytes _ => IO.FS.writeBinFile (pathOf location) ⟨bytes.toArray⟩
      | .link _ => pure ()
  for (location, entry) in before.entries do
    if (after.get? location).isNone && !entry.isDirectory then
      IO.FS.removeFile (pathOf location)

def put (stream : IO.FS.Stream) (text : Text) : IO Unit :=
  stream.putStr (String.ofList text)

def run (arguments : List String) : IO UInt32 := do
  let here ← IO.currentDir
  let location := (here.components.filter (· ≠ "")).reverse.map String.toList
  let before ← snapshot (FileTree.bare location).onHost location ⟨here, "."⟩
  let host ← host (FileTree.absolute location)
  let (result, session) :=
    CommandLine.run host host.environment (.host host.bindings) (arguments.map String.toList)
      (Session.start before .warning)
  store before session.tree
  let output ← IO.getStdout
  let errors ← IO.getStderr
  for record in session.records do
    put errors (record.level.name ++ " " ++ record.message ++ "\n")
  match result with
  | .ok ending =>
      put output (ending.help ++ ending.output)
      put errors (ending.usage ++ ending.errors)
      return UInt32.ofNat ending.exitCode.toNat
  | .error failure =>
      put errors (failure.message ++ "\n")
      return 1

end AsmLens.Main

def main (arguments : List String) : IO UInt32 :=
  AsmLens.Main.run arguments
