import AsmLens.Environment
import AsmLens.Shell.Program
import AsmLens.Shell.Lexer
import AsmLens.Shell.Settings
import AsmLens.Shell.Signal

namespace AsmLens.Shell

/-- Where the bytes of a descriptor go, or come from. Pipes are counted from the outermost one, and
sources by their numbers. -/
inductive Sink where
  | channel (channel : Channel)
  | pipe (level : Nat)
  | file (location : Location)
  | source (number : Nat)
  | nowhere
  | closed
  deriving DecidableEq, Repr

/-- What is left to be read of a file or of other input. -/
structure Source where
  rest : List UInt8
  isFile : Bool

/-- How a command ends: the next one follows, or some loops, a function or the whole script end with
it, or a signal ends the shell. -/
inductive Ending where
  | next
  | breaking (loops : Nat)
  | continuing (loops : Nat)
  | returning
  | exiting
  | killed (signal : Nat)
  deriving DecidableEq, Repr

/-- A variable of a shell. One that is handed on or fixed need not have a value yet. -/
structure Variable where
  name : Text
  value : Option Text
  isExported : Bool := false
  isFixed : Bool := false

/-- A command that runs beside the others. One that pauses is at work until something waits for it, and
what it writes is kept until then. -/
structure Job where
  number : Nat
  status : Nat
  late : List (Sink × List UInt8) := []
  isAtWork : Bool := false
  death : Option Nat := none

/-- A shell at work. -/
structure Machine where
  tree : FileTree
  name : Text
  parameters : List Text
  settings : Settings := []
  /-- Whether variables are kept in the table of a shell. -/
  isShell : Bool := true
  bindings : List Variable := []
  functions : List (Text × Command) := []
  aliases : List (Text × Text) := []
  descriptors : List (Nat × Sink) := [(0, .source 0), (1, .channel .output), (2, .channel .errors)]
  sources : List (Nat × Source) := [(0, ⟨[], false⟩)]
  written : List (Sink × List UInt8) := []
  pipes : Nat := 0
  loops : Nat := 0
  /-- The variables that the names of a function stood for before it. -/
  locals : Option (List (Text × Option Variable)) := none
  /-- The scripts for signals, and for the end under the number zero. -/
  traps : List (Nat × Text) := []
  /-- The signals whose scripts are still to be carried out. -/
  pending : List Nat := []
  jobs : List Job := []
  /-- The number of the shell, and the last one that has been given away. -/
  process : Nat := 1
  lastProcess : Nat := 1
  /-- Whether there has been a pause. -/
  hasPaused : Bool := false
  /-- The signal that has ended the last command. -/
  death : Option Nat := none
  /-- The permissions that new files do not get. -/
  mask : Nat := 0o022
  /-- How far the letters of the last word with options have been read. -/
  letterPlace : Nat := 0
  /-- What messages name besides the line. -/
  context : Text := []
  line : Nat := 1
  status : Nat := 0
  /-- The status of the last script that an expansion of the command at work has run. -/
  captured : Option Nat := none
  ending : Ending := .next

namespace Machine

def sink (machine : Machine) (descriptor : Nat) : Sink :=
  ((machine.descriptors.find? fun entry => entry.1 = descriptor).map Prod.snd).getD .closed

/-- Ties a descriptor to a sink. -/
def connect (machine : Machine) (descriptor : Nat) (sink : Sink) : Machine :=
  { machine with
    descriptors :=
      (descriptor, sink) :: machine.descriptors.filter fun entry => entry.1 ≠ descriptor }

/-- A new source for a descriptor. -/
def connectSource (machine : Machine) (descriptor : Nat) (source : Source) : Machine :=
  let number := machine.sources.length
  { machine with sources := (number, source) :: machine.sources }.connect descriptor
    (.source number)

/-- What can still be read from the standard input. -/
def input (machine : Machine) : Source :=
  match machine.sink 0 with
  | .source number =>
      ((machine.sources.find? fun entry => entry.1 = number).map Prod.snd).getD ⟨[], false⟩
  | _ => ⟨[], false⟩

/-- Leaves so much of the standard input. -/
def leaveInput (machine : Machine) (rest : List UInt8) : Machine :=
  match machine.sink 0 with
  | .source number =>
      { machine with
        sources := machine.sources.map fun entry =>
          if entry.1 = number then (number, { entry.2 with rest }) else entry }
  | _ => machine

def put (machine : Machine) (descriptor : Nat) (bytes : List UInt8) : Machine :=
  match machine.sink descriptor with
  | .nowhere | .closed | .source _ => machine
  | .file location =>
      match machine.tree.get? location with
      | some (.file before executable) =>
          { machine with
            tree := machine.tree.insert location (.file (before ++ bytes) executable) }
      | _ => machine
  | sink => { machine with written := machine.written ++ [(sink, bytes)] }

def putOutcome (machine : Machine) (outcome : Outcome) : Machine :=
  let after := outcome.written.foldl
    (fun machine part =>
      machine.put (match part.1 with | .output => 1 | .errors => 2) part.2)
    machine
  { after with status := outcome.status }

/-- What every complaint of the shell begins with. -/
def label (machine : Machine) : Text :=
  machine.name ++ ": " ++ Text.ofNat machine.line ++ ": "

/-- Complains in the name of a command of the shell. -/
def complain (machine : Machine) (message : Text) (status : Nat) : Machine :=
  machine.putOutcome (.ofError (machine.label ++ message ++ "\n") status)

/-- Complains about what stands in the script. -/
def complainHere (machine : Machine) (message : Text) (status : Nat) : Machine :=
  machine.complain (machine.context ++ message) status

def finish (machine : Machine) (ending : Ending) : Machine :=
  { machine with ending }

/-- A complaint that ends the script. -/
def abort (machine : Machine) (message : Text) : Machine :=
  (machine.complain message 2).finish .exiting

def abortHere (machine : Machine) (message : Text) : Machine :=
  machine.abort (machine.context ++ message)

def isRunning (machine : Machine) : Bool :=
  machine.ending = .next

def succeed (machine : Machine) : Machine :=
  { machine with status := 0 }

def binding? (machine : Machine) (name : Text) : Option Variable :=
  machine.bindings.find? fun binding => binding.name = name

/-- The value of a parameter or a variable that is set. -/
def value? (machine : Machine) (name : Text) : Option Text :=
  if name = "?" then some (Text.ofNat machine.status)
  else if name = "#" then some (Text.ofNat machine.parameters.length)
  else if name = "$" then some (Text.ofNat machine.process)
  else if name = "!" then machine.jobs.getLast?.map fun job => Text.ofNat job.number
  else if name = "-" then some machine.settings.shown
  else if name = "@" ∨ name = "*" then
    if machine.parameters.isEmpty then none else some (Text.join " " machine.parameters)
  else if name = "0" then some machine.name
  else if name ≠ [] ∧ name.all Char.isDigit then
    machine.parameters[(Text.readNat? name).getD 0 - 1]?
  else (machine.binding? name).bind Variable.value

/-- The characters at which words fall apart. -/
def separators (machine : Machine) : Text :=
  (machine.value? "IFS").getD " \t\n"

/-- The directories in which programs are looked for. -/
def searched (machine : Machine) : List Text :=
  Program.searched (machine.value? "PATH")

/-- Puts a variable in the place of the one with its name, or behind the others. -/
def putVariable (machine : Machine) (binding : Variable) : Machine :=
  { machine with
    bindings :=
      if (machine.binding? binding.name).isSome then
        machine.bindings.map fun old => if old.name = binding.name then binding else old
      else machine.bindings ++ [binding] }

def assign (machine : Machine) (name value : Text) : Machine :=
  let before := (machine.binding? name).getD { name, value := none }
  let isExported := before.isExported || machine.settings.has 'a'
  let after := if name = "OPTIND" then { machine with letterPlace := 0 } else machine
  after.putVariable { before with value := some value, isExported }

def isFixed (machine : Machine) (name : Text) : Bool :=
  (machine.binding? name).any Variable.isFixed

/-- Assigns to a variable in the name of a command, if it is not fixed. -/
def assignFor (machine : Machine) (command name value : Text) : Machine :=
  if machine.isFixed name then machine.abort (command ++ name ++ ": is read only")
  else machine.assign name value

def assignHere (machine : Machine) (name value : Text) : Machine :=
  machine.assignFor machine.context name value

def unassign (machine : Machine) (name : Text) : Machine :=
  { machine with
    bindings := machine.bindings.filter fun binding => binding.name ≠ name }

def publish (machine : Machine) (name : Text) : Machine :=
  let before := (machine.binding? name).getD { name, value := none }
  machine.putVariable { before with isExported := true }

def fix (machine : Machine) (name : Text) : Machine :=
  let before := (machine.binding? name).getD { name, value := none }
  machine.putVariable { before with isFixed := true }

/-- The row of a name in the table from which variables are handed on. -/
def row (name : Text) : Nat :=
  let codes := name.map Char.toNat
  (codes.headD 0 * 16 + codes.foldl (· + ·) 0) % 39

/-- The variables that are handed on to other programs. A shell goes through its table row by row. -/
def exported (machine : Machine) : List (Text × Text) :=
  let all := machine.bindings.filterMap fun binding =>
    match binding.isExported, binding.value with
    | true, some value => some (binding.name, value)
    | _, _ => none
  if machine.isShell then all.mergeSort fun first second => row first.1 ≤ row second.1 else all

/-- The variables that a shell begins with if it is not given them. -/
def ownVariables (tree : FileTree) : List (Text × Text) := [
  ("IFS", " \t\n"), ("OPTIND", "1"),
  ("PATH", "/usr/local/sbin:/usr/local/bin:/usr/sbin:/usr/bin:/sbin:/bin"), ("PPID", "1"),
  ("PS1", "# "), ("PS2", "> "), ("PS4", "+ "),
  ("PWD", FileTree.absolute tree.workingDirectory)]

/-- The variables of a shell that is given some: names that are none are not taken over, and the working
directory has to be right. -/
def startVariables (tree : FileTree) (given : List (Text × Text)) : List Variable :=
  let own := ownVariables tree
  let isRight (entry : Text × Text) : Bool :=
    Reader.isName entry.1 &&
      (entry.1 ≠ ['P', 'W', 'D'] || (FileTree.isAbsolute entry.2 &&
        (tree.locate .lookup entry.2).toOption = some tree.workingDirectory)) &&
      !(["IFS", "OPTIND", "PPID"] : List Text).contains entry.1
  let taken := given.filter isRight
  let lacking := own.filter fun entry => taken.all fun other => other.1 ≠ entry.1
  let ofEntry (isExported : Bool) (entry : Text × Text) : Variable :=
    { name := entry.1, value := some entry.2, isExported }
  lacking.map (fun entry => ofEntry (entry.1 = ['P', 'W', 'D']) entry) ++ taken.map (ofEntry true)

/-- A shell of its own, which knows of the variables only those that are handed on. -/
def child (machine : Machine) (name : Text) (parameters : List Text) : Machine :=
  { tree := machine.tree
    name
    parameters
    bindings := startVariables machine.tree machine.exported
    descriptors := machine.descriptors
    sources := machine.sources
    written := machine.written
    pipes := machine.pipes
    traps := machine.traps.filter fun entry => entry.2.isEmpty
    process := machine.lastProcess + 1
    lastProcess := machine.lastProcess + 1
    hasPaused := machine.hasPaused
    mask := machine.mask
    line := 0 }

/-- A copy of a shell, which has none of its scripts for signals. -/
def copy (machine : Machine) : Machine :=
  { machine with
    traps := machine.traps.filter fun entry => entry.2.isEmpty
    jobs := []
    loops := 0 }

def function? (machine : Machine) (name : Text) : Option Command :=
  (machine.functions.find? fun entry => entry.1 = name).map Prod.snd

/-- What has been written to a pipe of this level, and the machine without it. -/
def drain (machine : Machine) (level : Nat) : List UInt8 × Machine :=
  ((machine.written.filter fun part => part.1 = .pipe level).flatMap Prod.snd,
    { machine with written := machine.written.filter fun part => part.1 ≠ .pipe level })

/-- The machine after another one that has started from it in its place: what that one did to its own
state alone is forgotten. -/
def afterChild (machine child : Machine) : Machine :=
  let (status, death) : Nat × Option Nat :=
    match child.ending with
    | .killed signal => (128 + signal, some signal)
    | _ => (child.status % 256, child.death)
  { machine with
    tree := { child.tree with workingDirectory := machine.tree.workingDirectory }
    sources := child.sources
    written := child.written
    lastProcess := child.lastProcess
    hasPaused := child.hasPaused
    status
    death }

/-- The machine after a copy of it. A signal for the shell ends both. -/
def afterCopy (machine child : Machine) : Machine :=
  let after := machine.afterChild { child with death := none }
  match child.ending with
  | .killed signal => { after with death := none }.finish (.killed signal)
  | _ => after

/-- Tells which signal has ended the last command. -/
def notice (machine : Machine) : Machine :=
  match machine.death with
  | none => machine
  | some number =>
      let text : Text :=
        match (Signal.ofNumber? number).bind Signal.notice with
        | some text => text ++ "\n"
        | none => if number = 13 then [] else "\n"
      { machine.put 2 text.encode with death := none }

/-- Writes what jobs have written after a pause. -/
def collect (machine : Machine) (isMeant : Job → Bool) : Machine :=
  let late := (machine.jobs.filter isMeant).flatMap Job.late
  { machine with
    written := machine.written ++ late
    jobs := machine.jobs.map fun job =>
      if isMeant job then { job with late := [], isAtWork := false } else job }

end Machine

end AsmLens.Shell
