import AsmLens.Shell.Builtin.Variables
import AsmLens.Shell.Utility.Mode

namespace AsmLens.Shell

namespace Machine

/-- A number in an argument of the shell itself. -/
def number? (word : Text) : Option Nat :=
  if word ≠ [] ∧ word.all Char.isDigit ∧ word.length ≤ 10 then
    (Text.readNat? word).filter (· ≤ 2147483647)
  else
    none

/-- The shell receives a signal: it does what was asked for, or nothing, or ends. -/
def receive (machine : Machine) (signal : Nat) : Machine :=
  if signal = 0 ∨ Signal.harmless.any fun entry => entry.1 = signal then machine
  else
    match if signal = 9 then none else machine.traps.find? fun entry => entry.1 = signal with
    | some (_, []) => machine
    | some _ => { machine with pending := machine.pending ++ [signal] }
    | none => machine.finish (.killed signal)

def killUsage : Text :=
  "kill: Usage: kill [-s sigspec | -signum | -sigspec] [pid | job]... or\nkill -l [exitstatus]"

def jobNumbered? (machine : Machine) (word : Text) : Option Job :=
  match word with
  | '%' :: digits => (number? digits).bind fun place => machine.jobs[place - 1]?
  | digits => (number? digits).bind fun number => machine.jobs.find? fun job => job.number = number

/-- A job that is still at work ends by a signal instead. -/
def strike (signal : Nat) (job : Job) : Job :=
  if job.isAtWork then
    { job with status := 128 + signal, late := [], isAtWork := false, death := some signal }
  else job

def signalTo (signal : Nat) (machine : Machine) (word : Text) : Machine :=
  if !machine.isRunning then machine
  else
    match machine.jobNumbered? word with
    | some job =>
        if signal = 0 then machine
        else
          { machine with
            jobs := machine.jobs.map fun other =>
              if other.number = job.number then strike signal other else other }
    | none =>
        if word.head? = some '%' then machine.complain ("kill: No such job: " ++ word) 2
        else
          match number? word with
          | none => machine.complain ("kill: Illegal number: " ++ word) 2
          | some number =>
              if number = machine.process ∨ number = 0 then machine.receive signal
              else machine.complain "kill: No such process\n" 1

def kill (machine : Machine) (words : List Text) : Machine :=
  let send (signal : Nat) (targets : List Text) : Machine :=
    if targets.isEmpty then machine.complain killUsage 2
    else targets.foldl (signalTo signal) machine.succeed
  let invalid (word : Text) : Machine :=
    machine.complain ("kill: invalid signal number or name: " ++ word) 2
  match words with
  | ['-', '-'] :: targets => send 15 targets
  | ['-', 'l'] :: [] =>
      let names : Text := Signal.all.flatMap fun signal => signal.name ++ ['\n']
      machine.putOutcome (.ofText ("0\n" ++ names))
  | ['-', 'l'] :: word :: _ =>
      match number? word with
      | none => machine.complain ("kill: Illegal number: " ++ word) 2
      | some number =>
          let number := if 128 < number then number - 128 else number
          if number ≤ 64 then machine.putOutcome (.ofText (Signal.nameOf number ++ "\n"))
          else machine.complain ("kill: invalid signal number or exit status: " ++ word) 2
  | ['-', 's'] :: word :: targets =>
      match Signal.number? word with
      | some signal => send signal targets
      | none => invalid word
  | ('-' :: letter :: letters) :: targets =>
      match Signal.number? (letter :: letters) with
      | some signal => send signal targets
      | none => machine.complain (illegal "kill" letter) 2
  | targets => send 15 targets

/-- Waits for jobs: for one that is given, its status counts. -/
def wait (machine : Machine) (words : List Text) : Machine :=
  if words.isEmpty then (machine.collect fun _ => true).succeed
  else
    words.foldl
      (fun machine word =>
        match machine.jobNumbered? word with
        | some job =>
            let collected := machine.collect fun other => other.number = job.number
            { ({ collected with death := job.death }).notice with status := job.status }
        | none =>
            if word.head? = some '%' then machine.complain ("wait: No such job: " ++ word) 2
            else if (number? word).isSome then { machine with status := 127 }
            else machine.complain ("wait: Illegal number: " ++ word) 2)
      machine.succeed

/-- Tells what has become of the jobs, and forgets those that have ended. -/
def listJobs (machine : Machine) : Machine :=
  let count := machine.jobs.length
  let lines := machine.jobs.zipIdx.reverse.map fun (job, index) =>
    let sign : Text := if index + 1 = count then "+" else if index + 2 = count then "-" else " "
    let state : Text :=
      if job.isAtWork then "Running"
      else
        match job.death.bind fun signal => (Signal.ofNumber? signal).bind Signal.notice with
        | some text => text
        | none => if job.status = 0 then "Done" else "Done(" ++ Text.ofNat job.status ++ ")"
    let start : Text := "\x5b" ++ Text.ofNat (index + 1) ++ "\x5d " ++ sign ++ " " ++ state
    start ++ List.replicate (33 - start.length) ' ' ++ "\n"
  let after := machine.putOutcome (.ofText lines.flatten)
  { after with jobs := after.jobs.filter Job.isAtWork }

/-- Sets the scripts for signals, or lists them. -/
def trap (machine : Machine) (words : List Text) : Machine :=
  let words := match words with
    | ['-', '-'] :: words => words
    | words => words
  let set (action : Option Text) (signals : List Text) : Machine :=
    signals.foldl
      (fun machine word =>
        if machine.status ≠ 0 then machine
        else
          match Signal.number? word with
          | none => machine.putOutcome (.ofError ("trap: " ++ word ++ ": bad trap\n") 1)
          | some number =>
              let others := machine.traps.filter fun entry => entry.1 ≠ number
              { machine with
                traps :=
                  match action with
                  | some action => (number, action) :: others
                  | none => others })
      machine.succeed
  match words with
  | [] =>
      let all := machine.traps.mergeSort fun first second => first.1 ≤ second.1
      machine.putOutcome <| .ofText <| all.flatMap fun (number, action) =>
        "trap -- " ++ singleQuoted action ++ " " ++ Signal.nameOf number ++ "\n"
  | [signal] => set none [signal]
  | action :: signals => set (if action = "-" then none else some action) signals

/-- Shows or sets the permissions that new files do not get. -/
def setMask (machine : Machine) (words : List Text) : Machine :=
  match flags ['S'] words with
  | .error letter => machine.complain (illegal "umask" letter) 2
  | .ok (found, words) =>
      match words with
      | [] =>
          let digits := Nat.toDigits 8 machine.mask
          let rights (shift : Nat) : Text :=
            (permissionLetters (0o777 - machine.mask) |>.drop shift |>.take 3).filter (· ≠ '-')
          machine.putOutcome <| .ofText <|
            if found.contains 'S' then
              "u=" ++ rights 0 ++ ",g=" ++ rights 3 ++ ",o=" ++ rights 6 ++ "\n"
            else List.replicate (4 - digits.length) '0' ++ digits ++ "\n"
      | mode :: _ =>
          if mode.all fun c => (Escapes.octalDigit? c).isSome then
            let value := mode.foldl (fun value c => 8 * value + (c.toNat - '0'.toNat)) 0
            { machine with mask := value % 0o1000, status := 0 }
          else if mode.head?.any Char.isDigit then
            machine.complain ("umask: Illegal number: " ++ mode) 2
          else
            match ModeChange.ofText? mode with
            | some change =>
                { machine with mask := 0o777 - change false (0o777 - machine.mask), status := 0 }
            | none => machine.complain ("umask: Illegal mode: " ++ mode) 2

/-- Shows limits, of which there are none, or takes them as they come. -/
def limit (machine : Machine) (words : List Text) : Machine :=
  match flags "HSatfdsmcnlpvwr".toList words with
  | .error letter => machine.complain (illegal "ulimit" letter) 2
  | .ok (_, []) => machine.putOutcome (.ofText "unlimited\n")
  | .ok (_, [value]) =>
      if value = "unlimited" ∨ value.all Char.isDigit then machine.succeed
      else machine.complain "ulimit: bad number" 2
  | .ok _ => machine.complain "ulimit: too many arguments" 2

end Machine

end AsmLens.Shell
