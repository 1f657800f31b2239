import AsmLens.Shell.RuleProgram.Record
import AsmLens.Shell.RuleProgram.Token
import AsmLens.Shell.Utility.Basic

namespace AsmLens.Shell

/-- What a variable stands for. One without a value yet can become an array, which then is this one. -/
inductive RuleBinding where
  | unset (array : Option Nat)
  | value (value : RuleValue)
  | array (number : Nat)

/-- A file or a command that is read line by line, and how the command has ended. -/
structure RuleStream where
  name : Text
  isCommand : Bool
  rest : Text
  status : Nat

/-- A file or a command that is written to. What it still has to get comes last one first. -/
structure RuleSink where
  name : Text
  output : RuleOutput
  pending : List Text

/-- What interrupts a program of rules. -/
inductive RuleExit where
  | breaking
  | continuing
  | next
  | nextFile
  | exit
  | returning (value : RuleValue)
  | failure

/-- A place that can be assigned to. -/
inductive RulePlace where
  | variable (name : RuleVariable)
  | field (index : Nat)
  | element (array : Nat) (key : RuleKey)

structure RuleMachine where
  tree : FileTree
  input : List UInt8
  shared : List (Text × RuleBinding)
  parameters : List RuleBinding := []
  arrays : Array RuleArray := #[]
  record : Text := []
  fields : List RuleValue := []
  /-- What is left of the file whose records are gone through. -/
  current : Option Text := none
  /-- The argument that comes next. -/
  argument : Nat := 1
  hasRead : Bool := false
  streams : List RuleStream := []
  sinks : List RuleSink := []
  /-- What is still to be written, and what has been written, the last one first. -/
  pending : List Text := []
  written : List (Channel × List UInt8) := []
  /-- The ranges of records that have begun. -/
  active : List Nat := []
  /-- The number that random numbers start from, and the last one of them. -/
  seed : Nat := 0
  chance : Nat := 0
  status : Nat := 0

abbrev RuleRun := ExceptT RuleExit (StateM RuleMachine)

namespace RuleRun

def write (part : Channel × List UInt8) : RuleRun Unit :=
  modify fun machine => { machine with written := part :: machine.written }

/-- A complaint that ends the program. -/
def refuse {α : Type} (message : Text) : RuleRun α := do
  write (.errors, octetsOf ("awk: " ++ message ++ "\n"))
  modify fun machine => { machine with status := 2 }
  throw .failure

def sharedBinding (name : Text) : RuleRun RuleBinding := do
  match (← get).shared.find? fun entry => entry.1 = name with
  | some (_, binding) => return binding
  | none => return .unset none

def binding : RuleVariable → RuleRun RuleBinding
  | .shared name => sharedBinding name
  | .parameter place => return ((← get).parameters[place]?).getD (.unset none)

def bind (name : RuleVariable) (binding : RuleBinding) : RuleRun Unit :=
  modify fun machine =>
    match name with
    | .parameter place => { machine with parameters := machine.parameters.set place binding }
    | .shared name =>
        if machine.shared.any fun entry => entry.1 = name then
          { machine with
            shared := machine.shared.map fun entry =>
              if entry.1 = name then (name, binding) else entry }
        else { machine with shared := (name, binding) :: machine.shared }

def sharedValue (name : Text) : RuleRun RuleValue := do
  match ← sharedBinding name with
  | .value value => return value
  | _ => return .unset

/-- The text of a value that is not printed. -/
def textOf (value : RuleValue) : RuleRun Text := do
  match value with
  | .number number =>
      match wholeNumber? number with
      | some whole => return Text.ofInt whole
      | none =>
          let format ← sharedValue "CONVFMT"
          return numberText (format.toText []) number
  | other => return other.toText []

def sharedText (name : Text) : RuleRun Text := do
  textOf (← sharedValue name)

/-- A complaint about what the program does, which ends it. -/
def fail {α : Type} (message : Text) : RuleRun α := do
  let file ← sharedText "FILENAME"
  let inFile ← sharedText "FNR"
  let inAll ← sharedText "NR"
  refuse ("run time error: " ++ message ++ "\n\tFILENAME=\"" ++ file ++ "\" FNR=" ++ inFile ++ " NR=" ++
    inAll)

/-- The number of the array that a name stands for. -/
def arrayOf (name : RuleVariable) : RuleRun Nat := do
  match ← binding name with
  | .array number => return number
  | .unset (some number) =>
      bind name (.array number)
      return number
  | .unset none =>
      let number := (← get).arrays.size
      modify fun machine => { machine with arrays := machine.arrays.push {} }
      bind name (.array number)
      return number
  | .value _ => fail "a value is used as an array"

def array (number : Nat) : RuleRun RuleArray :=
  return ((← get).arrays[number]?).getD {}

def setArray (number : Nat) (array : RuleArray) : RuleRun Unit :=
  modify fun machine => { machine with arrays := machine.arrays.setIfInBounds number array }

/-- What stands between records or fields by the variable that tells it. -/
def separatorOf (text : Text) : RuleRun RuleSeparator := do
  match RuleSeparator.ofText text with
  | .ok separator => return separator
  | .error _ => fail ("regular expression compile failed\n" ++ text)

def setRecord (record : Text) : RuleRun Unit := do
  let separator ← separatorOf (← sharedText "FS")
  modify fun machine =>
    { machine with record, fields := (separator.fields record).map .input }

/-- Puts the record together from its fields. -/
def joinFields : RuleRun Unit := do
  let separator ← sharedText "OFS"
  let texts ← (← get).fields.mapM textOf
  modify fun machine => { machine with record := Text.join separator texts }

def fieldIndex (value : RuleValue) : RuleRun Nat := do
  let index := ((Real.ofFloat value.toNumber).truncated?).getD 0
  if index < 0 then fail ("negative field index $" ++ Text.ofInt index)
  else if 1000000 < index then fail ("$" ++ Text.ofInt index ++ " exceeds maximum field(1000000)")
  else return index.toNat

def field (index : Nat) : RuleRun RuleValue := do
  let machine ← get
  if index = 0 then return .input machine.record
  else return (machine.fields[index - 1]?).getD (.text [])

/-- Makes the record have so many fields. -/
def setFieldCount (count : Nat) : RuleRun Unit := do
  modify fun machine =>
    { machine with
      fields := machine.fields.take count ++
        List.replicate (count - machine.fields.length) (RuleValue.text []) }
  joinFields

def value (name : RuleVariable) : RuleRun RuleValue := do
  match name with
  | .shared name =>
      if name = "NF" then return .ofNat (← get).fields.length else sharedValue name
  | .parameter _ =>
      match ← binding name with
      | .value value => return value
      | _ => return .unset

def read : RulePlace → RuleRun RuleValue
  | .variable name => value name
  | .field index => field index
  | .element number key => do
      let found := (← array number).ask key true
      setArray number found
      return found.get key.shown

def assign (place : RulePlace) (value : RuleValue) : RuleRun Unit := do
  match place with
  | .variable name =>
      let isCount : Bool :=
        match name with
        | .shared name => name = "NF"
        | .parameter _ => false
      if isCount then
        let count := ((Real.ofFloat value.toNumber).truncated?).getD 0
        if count < 0 then fail "negative value assigned to NF"
        else setFieldCount count.toNat
      else
        bind name (.value value)
  | .field index =>
      if index = 0 then setRecord (← textOf value)
      else
        let count := max index (← get).fields.length
        modify fun machine =>
          { machine with
            fields := (machine.fields ++
              List.replicate (count - machine.fields.length) (RuleValue.text [])).set (index - 1)
                value }
        joinFields
  | .element number key =>
      setArray number (((← array number).ask key true).set key.shown value)

/-- Writes what is still to be written to the standard output. -/
def flushOutput : RuleRun Unit :=
  modify fun machine =>
    if machine.pending.isEmpty then machine
    else
      { machine with
        pending := []
        written := (.output, octetsOf machine.pending.reverse.flatten) :: machine.written }

/-- Lets a shell do a command. Gives what it writes, which is written if it is not taken. -/
def command (execute : Execution) (shell command : Text) (input : List UInt8) (takes : Bool) :
    RuleRun (Text × Nat × List UInt8) := do
  match execute [shell, "-c", readableText command] (← get).tree input with
  | .error _ => return ([], 127, input)
  | .ok effect =>
      modify fun machine => { machine with tree := effect.tree }
      effect.outcome.written.forM fun part =>
        if takes ∧ part.1 = .output then pure () else write part
      let output : List UInt8 := effect.outcome.written.flatMap fun part =>
        if part.1 = .output then part.2 else []
      return (textOfBytes output, effect.outcome.status, effect.input)

/-- Gives a file or a command what it still has to get. A command is started with all of it. -/
def drain (execute : Execution) (sink : RuleSink) (isOver : Bool) : RuleRun (RuleSink × Nat) := do
  let bytes := octetsOf sink.pending.reverse.flatten
  match sink.output with
  | .pipe =>
      if isOver then
        let (_, status, _) ← command execute "/bin/sh" sink.name bytes false
        return ({ sink with pending := [] }, status)
      else return (sink, 0)
  | _ =>
      let machine ← get
      let name := readableText sink.name
      let before := (machine.tree.readBytes name).toOption.getD []
      match machine.tree.writeBytes name (before ++ bytes) with
      | .ok tree => set { machine with tree }
      | .error _ => pure ()
      return ({ sink with pending := [] }, 0)

def flushFiles (execute : Execution) : RuleRun Unit := do
  let sinks ← (← get).sinks.mapM fun sink => do
    let (sink, _) ← drain execute sink false
    return sink
  modify fun machine => { machine with sinks }

def flushAll (execute : Execution) : RuleRun Unit := do
  flushOutput
  flushFiles execute

/-- Writes a text to the standard output, or where else it is to go. -/
def emit (output : Option (RuleOutput × Text)) (text : Text) : RuleRun Unit := do
  let toOutput : RuleRun Unit :=
    modify fun machine => { machine with pending := text :: machine.pending }
  match output with
  | none => toOutput
  | some (kind, name) =>
      if kind ≠ .pipe ∧ (name = "/dev/stdout" ∨ name = "-") then toOutput
      else if kind ≠ .pipe ∧ name = "/dev/stderr" then write (.errors, octetsOf text)
      else
        let machine ← get
        if machine.sinks.any fun sink => sink.name = name then
          modify fun machine =>
            { machine with
              sinks := machine.sinks.map fun sink =>
                if sink.name = name then { sink with pending := text :: sink.pending } else sink }
        else
          let path := readableText name
          let open' (bytes : List UInt8) : RuleRun Unit := do
            match machine.tree.writeBytes path bytes with
            | .ok tree => modify fun machine => { machine with tree }
            | .error errno => refuse ("cannot open \"" ++ name ++ "\" for output (" ++ errno.text ++ ")")
          match kind with
          | .pipe => flushOutput
          | .file => open' []
          | .appended => open' ((machine.tree.readBytes path).toOption.getD [])
          modify fun machine => { machine with sinks := ⟨name, kind, [text]⟩ :: machine.sinks }

/-- Closes a file or a command. Gives how a command has ended. -/
def close (execute : Execution) (name : Text) : RuleRun (Option Nat) := do
  let machine ← get
  let stream? := machine.streams.find? fun stream => stream.name = name
  let sink? := machine.sinks.find? fun sink => sink.name = name
  modify fun machine =>
    { machine with
      streams := machine.streams.filter fun stream => stream.name ≠ name
      sinks := machine.sinks.filter fun sink => sink.name ≠ name }
  match sink?, stream? with
  | some sink, _ => return some (← drain execute sink true).2
  | none, some stream => return some stream.status
  | none, none => return none

/-- Closes all that is written to. Files and commands come before the standard output. -/
def closeAll (execute : Execution) : RuleRun Unit := do
  (← get).sinks.forM fun sink => do
    let _ ← drain execute sink true
  flushOutput

/-- Opens a file for reading, if there is one. -/
def openFile? (name : Text) : RuleRun (Except Errno Text) := do
  let machine ← get
  let path := readableText name
  if Invocation.isStandardInput path then
    set { machine with input := [] }
    return .ok (textOfBytes machine.input)
  else
    match machine.tree.readBytes path with
    | .ok bytes => return .ok (textOfBytes bytes)
    | .error .isDirectory => refuse "read error (Is a directory)"
    | .error errno => return .error errno

/-- The next line of a file or a command that is read beside the records. Nothing tells that it cannot
be read. -/
def nextOf (execute : Execution) (name : Text) (isCommand : Bool) :
    RuleRun (Option (Option Text)) := do
  let isSame (stream : RuleStream) : Bool := stream.name = name && stream.isCommand = isCommand
  let stream? : Option RuleStream ←
    match (← get).streams.find? isSame with
    | some stream => pure (some stream)
    | none =>
        if isCommand then
          flushAll execute
          let (rest, status, _) ← command execute "/bin/sh" name (← get).input true
          pure (some { name, isCommand, rest, status })
        else
          match ← openFile? name with
          | .ok rest => pure (some { name, isCommand, rest, status := 0 })
          | .error _ => pure none
  match stream? with
  | none => return none
  | some stream =>
      let separator ← separatorOf (← sharedText "RS")
      let (line, rest) : Option Text × Text :=
        match separator.takeRecord? stream.rest with
        | some (line, rest) => (some line, rest)
        | none => (none, [])
      modify fun machine =>
        { machine with
          streams := { stream with rest } :: machine.streams.filter fun stream => !isSame stream }
      return some line

/-- Assigns to a variable as an argument tells, if it does. -/
def assignArgument? (argument : Text) : RuleRun Bool := do
  let name := argument.takeWhile isWordChar
  let rest := argument.drop name.length
  if name.isEmpty ∨ name.head?.any Char.isDigit ∨ rest.head? ≠ some '=' then return false
  else
    let content := RuleScanner.unescaped rest.length rest.tail
    assign (.variable (.shared name)) (.input content)
    return true

/-- Opens the next file among the arguments, or the standard input if there is none at all. As many
steps are allowed. -/
def openNext : Nat → RuleRun Bool
  | 0 => return false
  | steps + 1 => do
      let machine ← get
      let count := ((Real.ofFloat (← sharedValue "ARGC").toNumber).truncated?).getD 0
      let start (name rest : Text) : RuleRun Bool := do
        assign (.variable (.shared "FILENAME")) (.input name)
        assign (.variable (.shared "FNR")) (.ofNat 0)
        modify fun machine => { machine with current := some rest, hasRead := true }
        return true
      if count ≤ machine.argument then
        if machine.hasRead then return false
        else
          match ← openFile? "-" with
          | .ok rest => start "-" rest
          | .error _ => return false
      else
        set { machine with argument := machine.argument + 1 }
        let arguments ← array (← arrayOf (.shared "ARGV"))
        let name ← textOf (arguments.get (Text.ofNat machine.argument))
        if name.isEmpty then openNext steps
        else if ← assignArgument? name then openNext steps
        else
          match ← openFile? name with
          | .ok rest => start name rest
          | .error errno => refuse ("cannot open \"" ++ name ++ "\" (" ++ errno.text ++ ")")

/-- The next record of all files. As many steps are allowed. -/
def nextRecord : Nat → RuleRun (Option Text)
  | 0 => return none
  | steps + 1 => do
      match (← get).current with
      | none => if ← openNext (steps + 1) then nextRecord steps else return none
      | some rest =>
          let separator ← separatorOf (← sharedText "RS")
          match separator.takeRecord? rest with
          | none =>
              modify fun machine => { machine with current := none }
              nextRecord steps
          | some (record, rest) =>
              modify fun machine => { machine with current := some rest }
              let increase (name : Text) : RuleRun Unit := do
                assign (.variable (.shared name)) (.number ((← sharedValue name).toNumber + 1.0))
              increase "NR"
              increase "FNR"
              return some record

end RuleRun

end AsmLens.Shell
