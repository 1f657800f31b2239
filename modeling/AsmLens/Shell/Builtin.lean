import AsmLens.Shell.Builtin.Input
import AsmLens.Shell.Builtin.Naming
import AsmLens.Shell.Builtin.Processes
import AsmLens.Shell.Condition

namespace AsmLens.Shell

namespace Machine

/-- Ends the script, or the function, with a status. -/
def leave (machine : Machine) (name : Text) (ending : Ending) (arguments : List Text) : Machine :=
  match arguments with
  | [] => machine.finish ending
  | code :: _ =>
      match number? code with
      | some status => { machine with status }.finish ending
      | none => machine.abort (name ++ ": Illegal number: " ++ code)

/-- Ends some of the loops around a command, or one round of them. -/
def leaveLoops (machine : Machine) (name : Text) (ending : Nat → Ending)
    (arguments : List Text) : Machine :=
  match number? (arguments.headD ['1']) with
  | some (count + 1) =>
      if machine.loops = 0 then machine.succeed
      else machine.succeed.finish (ending (min count.succ machine.loops))
  | _ => machine.abort (name ++ ": Illegal number: " ++ arguments.headD [])

def shift (machine : Machine) (arguments : List Text) : Machine :=
  match number? (arguments.headD ['1']) with
  | none => machine.abort ("shift: Illegal number: " ++ arguments.headD [])
  | some count =>
      if machine.parameters.length < count then machine.abort "shift: can't shift that many"
      else { machine with parameters := machine.parameters.drop count, status := 0 }

/-- The working directory by the names that have led there. -/
def directory (machine : Machine) : Text :=
  (machine.value? "PWD").getD (FileTree.absolute machine.tree.workingDirectory)

/-- A path seen from a directory, where two dots take the name before them away. -/
def lexicalPath (directory path : Text) : Text :=
  let whole := if FileTree.isAbsolute path then path else directory ++ "/" ++ path
  let names := ((Text.cut '/' whole).filter (· ≠ [])).foldl
    (fun names (name : Text) =>
      if name = ['.'] then names
      else if name = ['.', '.'] then names.dropLast
      else names ++ [name])
    ([] : List Text)
  '/' :: Text.join "/" names

/-- Goes to a directory, if there is one. -/
def enter? (machine : Machine) (isPhysical : Bool) (path : Text) : Option Machine :=
  let before := machine.directory
  let wanted := if isPhysical then path else lexicalPath before path
  match machine.tree.locate .lookup wanted with
  | .error _ => none
  | .ok location =>
      match machine.tree.get? location with
      | some .directory =>
          let tree := { machine.tree with workingDirectory := location }
          let after := if isPhysical then FileTree.absolute location else wanted
          some <| (((({ machine with tree }.assign "OLDPWD" before).publish "OLDPWD").assign "PWD"
            after).publish "PWD").succeed
      | _ => none

def changeDirectory (machine : Machine) (words : List Text) : Machine :=
  match flags ['L', 'P'] words with
  | .error letter => machine.complain (illegal "cd" letter) 2
  | .ok (found, words) =>
      let isPhysical := found.getLast? = some 'P'
      let path : Text :=
        match words with
        | ['-'] :: _ => (machine.value? "OLDPWD").getD machine.directory
        | path :: _ => path
        | [] => (machine.value? "HOME").getD []
      let isPlain := path.head?.any fun c => c ≠ '/' && c ≠ '.'
      let starts := if isPlain then Text.cut ':' ((machine.value? "CDPATH").getD []) else [[]]
      let candidates := starts.map fun start =>
        if start.isEmpty then path else pathIn start path
      let entered := candidates.findSome? fun candidate =>
        (machine.enter? isPhysical candidate).map fun after => (candidate, after)
      if path.isEmpty then machine.succeed
      else
        match entered.orElse fun _ => (machine.enter? isPhysical path).map fun after => (path, after) with
        | none => machine.complain ("cd: can't cd to " ++ path) 2
        | some (candidate, after) =>
            if words.head? = some ['-'] ∨ candidate ≠ path then
              after.putOutcome (.ofText (after.directory ++ "\n"))
            else after

/-- Writes what a command of the shell has to say, if there is somewhere to write to. -/
def say (machine : Machine) (name : Text) (outcome : Outcome) : Machine :=
  let writes := outcome.written.any fun part => part.1 = .output && !part.2.isEmpty
  if machine.sink 1 = .closed && writes then
    machine.complain (name ++ ": " ++ name ++ ": I/O error") 1
  else machine.putOutcome outcome

def printDirectory (machine : Machine) (words : List Text) : Machine :=
  match flags ['L', 'P'] words with
  | .error letter => machine.complain (illegal "pwd" letter) 2
  | .ok (found, _) =>
      let path :=
        if found.getLast? = some 'P' then FileTree.absolute machine.tree.workingDirectory
        else machine.directory
      machine.say "pwd" (.ofText (path ++ "\n"))

def test (machine : Machine) (name : Text) (arguments : List Text) : Machine :=
  match Condition.ofCommand machine.tree name arguments with
  | .ok value => { machine with status := if value then 0 else 1 }
  | .error error => machine.complain (name ++ ": " ++ error.message) 2

def lackingJob (machine : Machine) (name : Text) : Machine :=
  machine.complain (name ++ ": No current job") 2

/-- The commands that the shell carries out itself and that run no others. -/
def builtins : List (Text × (Machine → List Text → Machine)) := [
  (":", fun machine _ => machine.succeed),
  ("true", fun machine _ => machine.succeed),
  ("false", fun machine _ => { machine with status := 1 }),
  ("echo", fun machine words => machine.say "echo" (shellEcho words)),
  ("printf", fun machine words =>
    machine.say "printf" (printf .builtin (machine.label ++ "printf: ") words)),
  ("test", fun machine words => machine.test "test" words),
  ("[", fun machine words => machine.test ['\x5b'] words),
  ("pwd", printDirectory),
  ("cd", changeDirectory),
  ("exit", fun machine words => machine.leave "exit" .exiting words),
  ("return", fun machine words => machine.leave "return" .returning words),
  ("break", fun machine words => machine.leaveLoops "break" .breaking words),
  ("continue", fun machine words => machine.leaveLoops "continue" .continuing words),
  ("shift", shift),
  ("set", set),
  ("export", fun machine words => machine.mark "export" publish Variable.isExported words),
  ("readonly", fun machine words => machine.mark "readonly" fix Variable.isFixed words),
  ("local", makeLocal),
  ("unset", unset),
  ("read", fun machine words => machine.read false words),
  ("getopts", readOption)]

/-- The commands that the shell carries out itself and that are about names, processes and signals. -/
def processBuiltins : List (Text × (Machine → List Text → Machine)) := [
  ("alias", setAliases),
  ("unalias", unalias),
  ("type", describe),
  ("hash", hash),
  ("trap", trap),
  ("kill", kill),
  ("wait", wait),
  ("jobs", fun machine _ => machine.listJobs),
  ("bg", fun machine _ => machine.lackingJob "bg"),
  ("fg", fun machine _ => machine.lackingJob "fg"),
  ("umask", setMask),
  ("ulimit", limit),
  ("times", fun machine _ =>
    machine.putOutcome (.ofText "0m0.000000s 0m0.000000s\n0m0.000000s 0m0.000000s\n"))]

def builtin? (name : Text) : Option (Machine → List Text → Machine) :=
  ((builtins ++ processBuiltins).find? fun entry => entry.1 = name).map Prod.snd

end Machine

end AsmLens.Shell
