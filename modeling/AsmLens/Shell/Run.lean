import AsmLens.Shell.Builtin
import AsmLens.Shell.Locating
import AsmLens.Shell.Redirection
import AsmLens.Shell.Utility.Environment

namespace AsmLens.Shell

namespace Machine

/-- How many commands deep a script may get. -/
def depthLimit : Nat := 20000

/-- Ends the script after a failure, if that was asked for and the failure is not part of a
condition. -/
def orExit (machine : Machine) (isTested : Bool) : Machine :=
  if machine.settings.has 'e' ∧ !isTested ∧ machine.status ≠ 0 ∧ machine.isRunning then
    machine.finish .exiting
  else
    machine

/-- After the round of a loop: whether another one may follow. -/
def afterRound (machine : Machine) : Bool × Machine :=
  match machine.ending with
  | .next => (true, machine)
  | .breaking (loops + 2) => (false, machine.finish (.breaking (loops + 1)))
  | .breaking _ => (false, machine.finish .next)
  | .continuing (loops + 2) => (false, machine.finish (.continuing (loops + 1)))
  | .continuing _ => (true, machine.finish .next)
  | _ => (false, machine)

/-- Lets a name stand again for a variable that it has stood for before. -/
def restoreVariable (machine : Machine) (entry : Text × Option Variable) : Machine :=
  match entry.2 with
  | some binding => machine.putVariable binding
  | none => machine.unassign entry.1

/-- Lets a name stand again for what it stood for before a command. -/
def restore (before machine : Machine) (name : Text) : Machine :=
  machine.restoreVariable (name, before.binding? name)

/-- The machine in which the output of a script is caught. -/
def caught (machine : Machine) : Machine :=
  let level := machine.pipes + 1
  { machine.copy with pipes := level }.connect 1 (.pipe level)

def trace (machine : Machine) (words : List Text) : Machine :=
  if machine.settings.has 'x' ∧ words ≠ [] then
    machine.put 2 (Text.encode ((machine.value? "PS4").getD [] ++ Text.join " " words ++ "\n"))
  else
    machine

/-- Assigns values to variables, for the shell or for the commands that it starts. Gives the assignments
as words, too. -/
def assignAll (capture : Capture) (machine : Machine) (publishes : Bool)
    (assignments : List (Text × Word)) : Machine × List Text :=
  assignments.foldl
    (fun (machine, words) (name, word) =>
      if !machine.isRunning then (machine, words)
      else
        let (after, value) := machine.expandText capture (machine.withHome true word)
        if !after.isRunning then (after, words)
        else
          let assigned := after.assignHere name value
          (if publishes ∧ assigned.isRunning then assigned.publish name else assigned,
            words ++ [name ++ "=" ++ value]))
    (machine, [])

/-- Whether a file that names no interpreter is a script: its first line is free of most control
characters. -/
def isScript (tree : FileTree) (path : Text) : Bool :=
  ((tree.readBytes path).toOption.getD []).takeWhile (· ≠ 10) |>.all fun byte =>
    (32 ≤ byte && byte ≠ 127) || ([9, 11, 12, 13, 14, 27] : List UInt8).contains byte

/-- The file with commands that a path leads to: a name alone is looked for in the search path. -/
def sourceFile (machine : Machine) (path : Text) : Except Text (Text × List UInt8) :=
  let cannot (errno : Errno) : Text :=
    ".: cannot open " ++ path ++ ": " ++ reason "No such file" errno
  if path.contains '/' then
    match machine.tree.readBytes path with
    | .ok bytes => .ok (path, bytes)
    | .error errno => .error (cannot errno)
  else
    let paths := machine.searched.map fun directory =>
      if directory.isEmpty then path else pathIn directory path
    let found := paths.findSome? fun path =>
      (machine.tree.readBytes path).toOption.map fun bytes => (path, bytes)
    match found with
    | some entry => .ok entry
    | none => .error (".: " ++ path ++ ": not found")

/-- The tokens of a line in which each command that is an alias is replaced. As many replacements are
allowed. -/
def withAliases (aliases : List (Text × Text)) : Nat → Bool → List Token → List Token
  | 0, _, tokens => tokens
  | _, _, [] => []
  | _, _, .newline line :: rest => .newline line :: rest
  | steps + 1, isFirst, .word line word :: rest =>
      let isReserved := (Reader.reserved? word).isSome
      let found := if isFirst then (Token.plainText? word).bind fun name =>
        aliases.find? fun entry => entry.1 = name else none
      match found with
      | some (name, text) =>
          let inside := (Token.ofScript line text).dropLast
          withAliases (aliases.filter fun entry => entry.1 ≠ name) steps true (inside ++ rest)
      | none =>
          .word line word ::
            withAliases aliases steps
              (isFirst && (isReserved || (Reader.assignment? word).isSome)) rest
  | steps + 1, _, .operator line symbol :: rest =>
      let isFirst := (["|", "&", "&&", "||", ";", "(", ";;"] : List Text).contains symbol
      .operator line symbol :: withAliases aliases steps isFirst rest
  | steps + 1, isFirst, token :: rest => token :: withAliases aliases steps isFirst rest

/-- A tree in which nothing has been written to the device that holds nothing. -/
def withEmptyDevice (tree : FileTree) : FileTree :=
  let device : Location := ["null", "dev"]
  match tree.get? device with
  | some (.file (_ :: _) executable) => tree.insert device (.file [] executable)
  | _ => tree

/-- The machine after a program has run in its place. What has been written to a channel that is closed
is lost, which the program tells. -/
def afterProgram (machine : Machine) (program : Program) (effect : Effect) : Machine :=
  let writes := effect.outcome.written.any fun part => part.1 = .output && !part.2.isEmpty
  let complaint : Outcome :=
    if machine.sink 1 = .closed ∧ writes then
      .ofError (program.name ++
        (if program.name = "cat" then ": standard output" else ": write error") ++
        ": Bad file descriptor\n") 1
    else {}
  let isPause := lastName program.name = "sleep" && effect.outcome.status = 0
  { machine with
    tree := withEmptyDevice effect.tree
    hasPaused := machine.hasPaused || isPause
    death := none }.leaveInput effect.input |>.putOutcome (effect.outcome.append complaint)

/-- A command of the shell whose failure does not end the script when it is called by another one. -/
def keepsGoing (name : Text) : Bool :=
  isSpecial name && name ≠ "exit" && name ≠ "eval" && name ≠ "exec" && name ≠ "return"

mutual

/-- Carries out a command of at most so much depth. -/
def run : Nat → Bool → Machine → Command → Machine
  | 0, _, machine, _ => { machine with status := 2 }.finish .exiting
  | depth + 1, isTested, machine, command =>
      if !machine.isRunning ∨ machine.settings.has 'n' then
        machine
      else
        let capture := captureWith depth
        match command with
        | .nothing => machine
        | .simple line assignments words redirects =>
            let (expanded, texts) := { machine with line, captured := none }.expand capture words
            if !expanded.isRunning then
              expanded
            else
              let isSpecial := texts.head?.any Machine.isSpecial
              match expanded.redirect capture redirects with
              | .error failed =>
                  let failed := giveBack expanded failed
                  if isSpecial then failed.finish .exiting else failed.orExit isTested
              | .ok opened =>
                  let (assigned, settings) :=
                    opened.assignAll capture (!texts.isEmpty && !isSpecial) assignments
                  let ready := assigned.trace (settings ++ texts)
                  match texts with
                  | [] =>
                      let status :=
                        if ready.isRunning then ready.captured.getD 0 else ready.status
                      (giveBack expanded { ready with status }).orExit isTested
                  | name :: arguments =>
                      if !ready.isRunning then ready
                      else
                        let after := call depth isTested ready name arguments
                        let restored :=
                          if isSpecial then after
                          else (assignments.map Prod.fst).foldl (restore expanded) after
                        (if name = "exec" then restored
                          else giveBack expanded restored).orExit isTested
        | .group line body redirects =>
            match { machine with line }.redirect capture redirects with
            | .error failed => (giveBack machine failed).orExit isTested
            | .ok opened => giveBack machine (run depth isTested opened body)
        | .subshell body =>
            let child := conclude depth (run depth isTested machine.copy body)
            (machine.afterCopy child).orExit isTested
        | .sequence first second =>
            run depth isTested (run depth isTested machine first) second
        | .both first second =>
            let after := run depth true machine first
            if after.status = 0 then run depth isTested after second else after
        | .either first second =>
            let after := run depth true machine first
            if after.status = 0 then after else run depth isTested after second
        | .negation body =>
            let after := run depth true machine body
            if after.isRunning then { after with status := if after.status = 0 then 1 else 0 }
            else after
        | .pipeline first second =>
            let left := conclude depth (run depth isTested machine.caught first)
            let (bytes, drained) := left.drain (machine.pipes + 1)
            let between := machine.afterCopy drained
            let right := conclude depth
              (run depth isTested (between.copy.connectSource 0 ⟨bytes, false⟩) second)
            (between.afterCopy right).orExit isTested
        | .background body =>
            let start := { machine.copy with hasPaused := false }.connect 0 .nowhere
            let child := conclude depth (run depth false start body)
            let after := machine.afterChild child
            let late :=
              if child.hasPaused then child.written.drop machine.written.length else []
            let number := after.lastProcess + 1
            { after with
              written := if child.hasPaused then machine.written else child.written
              hasPaused := machine.hasPaused
              lastProcess := number
              jobs := machine.jobs ++
                [⟨number, after.status, late, child.hasPaused, after.death⟩]
              status := 0
              death := none }
        | .choice condition whenTrue whenFalse =>
            let after := run depth true machine condition
            if !after.isRunning then after
            else if after.status = 0 then run depth isTested after whenTrue
            else run depth isTested { after with status := 0 } whenFalse
        | .loop condition goesOn body =>
            let after := rounds depth isTested { machine with loops := machine.loops + 1 } 0
              condition goesOn body
            { after with loops := machine.loops }
        | .forEach line name words body =>
            let (expanded, texts) := { machine with line }.expand capture words
            if !expanded.isRunning then expanded
            else
              let after := texts.foldl
                (fun (state : Bool × Machine) value =>
                  if state.1 then
                    (run depth isTested (state.2.assignHere name value) body).afterRound
                  else state)
                (true, { expanded with loops := machine.loops + 1, status := 0 })
              { after.2 with loops := machine.loops }
        | .selection line subject branches =>
            let (after, text) := { machine with line }.expandText capture subject
            if after.isRunning then select depth isTested after text branches else after
        | .branch _ _ _ => machine
        | .definition name body =>
            { machine with functions := (name, body) :: machine.functions, status := 0 }

/-- What a script writes that runs in a copy of the shell. Where no command can go on, it ends. -/
def captureWith : Nat → Capture
  | 0 => fun machine _ _ => (machine, [])
  | depth + 1 => fun machine line script =>
      let start := { machine.caught with settings := machine.settings }
      let tokens := Token.ofScript line script
      let sound :=
        match Reader.enclosed tokens with
        | .ok (_, rest) => tokens.take (tokens.length - rest.length) ++ [.finish line none]
        | .error _ => tokens
      let child := conclude depth (interpret depth false start sound)
      let (bytes, drained) := child.drain (machine.pipes + 1)
      let after := machine.afterCopy drained
      ({ after with line := machine.line, captured := some after.status }, Text.decode bytes)

/-- Repeats a body as long as a condition holds, or as long as it does not. The status is that of the
last round. -/
def rounds : Nat → Bool → Machine → Nat → Command → Bool → Command → Machine
  | 0, _, machine, _, _, _, _ => { machine with status := 2 }.finish .exiting
  | depth + 1, isTested, machine, status, condition, goesOn, body =>
      let (continues, checked) := (run depth true machine condition).afterRound
      if !continues then checked
      else if (checked.status = 0) ≠ goesOn then { checked with status }
      else
        let (continues, after) := (run depth isTested checked body).afterRound
        if continues then rounds depth isTested after after.status condition goesOn body else after

/-- Carries out the first branch with a pattern that covers the text. -/
def select : Nat → Bool → Machine → Text → Command → Machine
  | depth + 1, isTested, machine, text, .branch patterns body others =>
      let capture := captureWith depth
      let (after, isCovered) := patterns.foldl
        (fun (state : Machine × Bool) word =>
          if state.2 then state
          else
            let (after, pattern) := state.1.expandWhole capture word
            (after, (Pattern.ofMarked pattern).covers text))
        (machine, false)
      if !after.isRunning then after
      else if isCovered then run depth isTested { after with status := 0 } body
      else select depth isTested after text others
  | _, _, machine, _, _ => { machine with status := 0 }

/-- Carries out a command that is given by its words. -/
def call : Nat → Bool → Machine → Text → List Text → Machine
  | 0, _, machine, _, _ => { machine with status := 2 }.finish .exiting
  | depth + 1, isTested, machine, name, arguments =>
      if name = "eval" then evaluate depth isTested machine arguments
      else if name = "." then source depth isTested machine arguments
      else if name = "exec" then
        match arguments with
        | [] => machine.succeed
        | ['-', '-'] :: [] => machine.succeed
        | ['-', '-'] :: program :: rest | program :: rest =>
            match Program.ofWords machine.tree machine.searched program rest with
            | .ok _ =>
                (launch depth { machine with traps := [] } "exec: " program rest).finish .exiting
            | .error _ => (launch depth machine "exec: " program rest).finish .exiting
      else if name = "command" then carryOn depth isTested machine arguments
      else
        match machine.function? name with
        | some body =>
            let inner := { machine with parameters := arguments, locals := some [], loops := 0 }
            let after := run depth isTested inner body
            let restored := (after.locals.getD []).foldl restoreVariable after
            { restored with
              parameters := machine.parameters
              locals := machine.locals
              loops := machine.loops
              ending := if after.ending = .returning then .next else after.ending }
        | none =>
            match builtin? name with
            | some carryOut => answerSignals depth (carryOut machine arguments)
            | none => (launch depth machine machine.context name arguments).notice

/-- Carries out a command that is not a function, or tells what it is. -/
def carryOn : Nat → Bool → Machine → List Text → Machine
  | 0, _, machine, _ => { machine with status := 2 }.finish .exiting
  | depth + 1, isTested, machine, arguments =>
      match flags ['p', 'v', 'V'] arguments with
      | .error letter => machine.complain (illegal "command" letter) 2
      | .ok (_, []) => machine.succeed
      | .ok (found, name :: rest) =>
          if found.contains 'V' then machine.describe [name]
          else if found.contains 'v' then machine.locateCommand name
          else
            match builtin? name with
            | some carryOut =>
                let after := answerSignals depth (carryOut machine rest)
                if keepsGoing name ∧ after.ending = .exiting then after.finish .next else after
            | none =>
                if name = "." then
                  match machine.sourceFile (rest.headD []) with
                  | .error message => machine.complain message 2
                  | .ok _ => source depth isTested machine rest
                else if (["eval", "exec", "command"] : List Text).contains name then
                  call depth isTested machine name rest
                else (launch depth machine [] name rest).notice

/-- Carries out the scripts for signals that have come. They do not change the status. -/
def answerSignals : Nat → Machine → Machine
  | 0, machine => machine
  | depth + 1, machine =>
      match machine.pending with
      | [] => machine
      | signals =>
          signals.foldl
            (fun machine signal =>
              match machine.traps.find? fun entry => entry.1 = signal with
              | some (_, script) =>
                  let after := interpret depth false machine (Token.ofScript 1 script)
                  if after.ending = .exiting then after
                  else { after with status := machine.status }
              | none => machine)
            { machine with pending := [] }

/-- Carries out words as a script. -/
def evaluate : Nat → Bool → Machine → List Text → Machine
  | 0, _, machine, _ => { machine with status := 2 }.finish .exiting
  | depth + 1, isTested, machine, words =>
      let tokens := Token.ofScript 1 (Text.join " " words)
      let isEmpty := (Reader.skipNewlines tokens).length ≤ 1
      let start := { machine with
        context := "eval: "
        status := if isEmpty then 0 else machine.status }
      { interpret depth isTested start tokens with context := machine.context, line := machine.line }

/-- Carries out the commands of a file in the shell itself. -/
def source : Nat → Bool → Machine → List Text → Machine
  | 0, _, machine, _ => { machine with status := 2 }.finish .exiting
  | depth + 1, isTested, machine, arguments =>
      match (if arguments.head? = some ['-', '-'] then arguments.tail else arguments) with
      | [] => machine.succeed
      | path :: _ =>
          match machine.sourceFile path with
          | .error message => machine.abort message
          | .ok (_, bytes) =>
              let tokens := Token.ofScript 1 (Text.decode bytes)
              let start := { machine with
                context := path ++ ": "
                status := if tokens.length ≤ 1 then 0 else machine.status }
              let after := interpret depth isTested start tokens
              { after with
                context := machine.context
                line := machine.line
                ending := if after.ending = .returning then .next else after.ending }

/-- Finds a program and runs it. A file that may run and names no interpreter is a script. -/
def launch : Nat → Machine → Text → Text → List Text → Machine
  | 0, machine, _, _, _ => { machine with status := 2 }.finish .exiting
  | depth + 1, machine, context, name, arguments =>
      match Program.ofWords machine.tree machine.searched name arguments with
      | .ok program => start depth machine program
      | .error .badFormat =>
          if isScript machine.tree name then
            start depth machine ⟨.shell, "/bin/sh", name :: arguments⟩
          else
            machine.complain (context ++ name ++ ": " ++ Errno.badFormat.text) 126
      | .error .noEntry | .error .notDirectory =>
          machine.complain (context ++ name ++ ": not found") 127
      | .error errno =>
          let isAbsent := errno.meansAbsent || errno = .nameTooLong || !name.contains '/'
          machine.complain (context ++ name ++ ": " ++ errno.text) (if isAbsent then 127 else 126)

/-- Runs a program by its words for another program, which gets all that it leaves behind. -/
def execute : Nat → Machine → Execution
  | 0, _ => fun _ _ _ => .error .tooManyLinks
  | depth + 1, machine => fun words tree input =>
      match words with
      | [] => .error .noEntry
      | name :: arguments =>
          let program? : Except Errno Program :=
            match Program.ofWords tree machine.searched name arguments with
            | .error .badFormat => .ok ⟨.shell, "/bin/sh", name :: arguments⟩
            | found => found
          match program? with
          | .error errno => .error errno
          | .ok program =>
              let fresh : Machine := {
                tree
                name := machine.name
                parameters := []
                bindings := machine.bindings
                isShell := machine.isShell
                sources := [(0, ⟨input, false⟩)]
                lastProcess := machine.lastProcess
                mask := machine.mask }
              let after := start depth fresh program
              let written := after.written.filterMap fun (sink, bytes) =>
                match sink with
                | .channel channel => some (channel, bytes)
                | _ => none
              .ok ⟨after.tree, after.input.rest, ⟨written, after.status⟩⟩

/-- Runs a program in place of a shell that waits for it. -/
def start : Nat → Machine → Program → Machine
  | 0, machine, _ => { machine with status := 2 }.finish .exiting
  | depth + 1, machine, program =>
      let given := machine.exported
      let invocation : Invocation := {
        name := program.name
        arguments := program.arguments
        tree := machine.tree
        input := machine.input.rest
        inputIsFile := machine.input.isFile
        environment := Environment.ofList given
        bindings := given
        execute := execute depth machine }
      match program.kind with
      | .utility carryOut => machine.afterProgram program (carryOut invocation)
      | .locator => machine.afterProgram program (invocation.which machine.searched)
      | .environment =>
          match EnvironmentCall.ofArguments invocation.environment given program.arguments with
          | .error misuse => machine.afterProgram program (invocation.environmentMisuse misuse)
          | .ok envCall => startEnvironment depth machine program invocation envCall
      | .shell => machine.afterChild (startShell depth machine program)

/-- Runs a command with other variables, or writes these. -/
def startEnvironment : Nat → Machine → Program → Invocation → EnvironmentCall → Machine
  | 0, machine, _, _, _ => { machine with status := 2 }.finish .exiting
  | depth + 1, machine, program, invocation, envCall =>
      let bindings : List Variable := envCall.bindings.map fun entry =>
        { name := entry.1, value := some entry.2, isExported := true }
      let directory : Except Errno Location :=
        match envCall.directory with
        | none => .ok machine.tree.workingDirectory
        | some path => do
            let location ← machine.tree.locate .lookup path
            match machine.tree.get? location with
            | some .directory => .ok location
            | some _ => .error .notDirectory
            | none => .error .noEntry
      match directory, envCall.words with
      | .error errno, _ =>
          machine.afterProgram program <| invocation.refuse
            ("cannot change directory to " ++ curled (envCall.directory.getD []) ++ ": " ++
              errno.text) Invocation.environmentFailure
      | .ok _, [] =>
          machine.afterProgram program (invocation.report (.ofText envCall.listing))
      | .ok workingDirectory, name :: arguments =>
          let settled := { machine with
            tree := { machine.tree with workingDirectory }
            bindings
            isShell := false }
          let found : Except Errno Program :=
            match Program.ofWords settled.tree settled.searched name arguments with
            | .error .badFormat => .ok ⟨.shell, "/bin/sh", name :: arguments⟩
            | found => found
          match found with
          | .ok found => machine.afterChild (start depth settled found)
          | .error errno => machine.afterProgram program (invocation.cannotStart name errno)

/-- Runs a shell of its own. -/
def startShell : Nat → Machine → Program → Machine
  | 0, machine, _ => { machine with status := 2 }.finish .exiting
  | depth + 1, machine, program =>
      let child := machine.child program.name []
      let call : SettingWords := { settings := [], rest := program.arguments }
      match call.read ['c', 'l'] program.arguments.length with
      | .error error => child.abort error.message
      | .ok call =>
          let isScripted := call.others.contains 'c'
          let settings :=
            if call.rest.isEmpty ∧ !isScripted then call.settings.switch true 's' else call.settings
          let ready := { child with settings }
          let runScript (name script : Text) (parameters : List Text) : Machine :=
            conclude depth <| interpret depth false { ready with name, parameters, line := 1 }
              (Token.ofScript 1 script)
          if isScripted then
            match call.rest with
            | [] => child.abort "-c requires an argument"
            | script :: rest => runScript (rest.headD program.name) script rest.tail
          else
            match call.rest, settings.has 's' with
            | path :: parameters, false =>
                match machine.tree.readBytes path with
                | .ok bytes => runScript path (Text.decode bytes) parameters
                | .error .isDirectory => child
                | .error errno =>
                    child.abort ("cannot open " ++ path ++ ": " ++ reason "No such file" errno)
            | parameters, _ =>
                let input := machine.input.rest
                conclude depth <| interpret depth false
                  { ready.leaveInput [] with parameters, line := 1 }
                  (Token.ofScript 1 (Text.decode input))

/-- Carries out the commands of a script line by line. -/
def interpret : Nat → Bool → Machine → List Token → Machine
  | 0, _, machine, _ => { machine with status := 2 }.finish .exiting
  | depth + 1, isTested, machine, tokens =>
      if !machine.isRunning then
        machine
      else
        match tokens with
        | [.finish _ none] => machine
        | tokens =>
            let tokens :=
              if machine.aliases.isEmpty then tokens
              else withAliases machine.aliases (tokens.length + 100) true tokens
            match Command.ofTokens tokens with
            | .ok (command, rest) =>
                interpret depth isTested (run depth isTested machine command) rest
            | .error (line, error) =>
                { machine with line }.abortHere ("Syntax error: " ++ error.message)

/-- Carries out the farewell of a script that has ended, which does not change its status, and collects
what is still at work. -/
def conclude : Nat → Machine → Machine
  | 0, machine => machine
  | depth + 1, machine =>
      let isKilled : Bool :=
        match machine.ending with
        | .killed _ => true
        | _ => false
      let after : Machine :=
        match (if isKilled then none else machine.traps.find? fun entry => entry.1 = 0) with
        | none => machine
        | some (_, script) =>
            let cleared := { machine with
              traps := machine.traps.filter fun entry => entry.1 ≠ 0
              ending := .next }
            let after : Machine := interpret depth false cleared (Token.ofScript 1 script)
            if after.ending = .exiting then after else { after with status := machine.status }
      after.collect fun _ => true

end

end Machine

/-- Runs a program of the host on a file tree, with some variables. -/
def runProgram (bindings : List (Text × Text)) (tree : FileTree) (program : Program) : Machine :=
  Machine.start Machine.depthLimit
    { tree
      name := program.name
      parameters := []
      bindings := bindings.map fun entry =>
        { name := entry.1, value := some entry.2, isExported := true }
      isShell := false }
    program

/-- The exit code of a program that has run: its status, or the number of the signal that has ended it as
a negative one. -/
def Machine.exitCode (machine : Machine) : Int :=
  match machine.death with
  | some signal => -signal
  | none => machine.status % 256

end AsmLens.Shell
