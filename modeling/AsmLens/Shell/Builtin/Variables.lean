import AsmLens.Shell.Machine

namespace AsmLens.Shell

namespace Machine

/-- Reads options of letters alone at the front of words. Gives those that are there and the words after
them, or the first letter that is no option. -/
def flags (known : List Char) : List Text → Except Char (List Char × List Text)
  | ['-', '-'] :: rest => .ok ([], rest)
  | ('-' :: letter :: letters) :: rest => do
      match (letter :: letters).find? fun letter => !known.contains letter with
      | some letter => .error letter
      | none =>
          let (found, rest) ← flags known rest
          .ok (letter :: letters ++ found, rest)
  | rest => .ok ([], rest)

def illegal (command : Text) (letter : Char) : Text :=
  command ++ ": Illegal option -" ++ [letter]

/-- A value as it can be read again: between single quotes, those in it between double ones. -/
def singleQuoted (value : Text) : Text :=
  "'" ++ inside value.length value ++ "'"
where
  inside : Nat → Text → Text
    | 0, _ => []
    | steps + 1, value =>
        let plain := value.takeWhile (· ≠ '\'')
        let quotes := (value.drop plain.length).takeWhile (· = '\'')
        let rest := value.drop (plain.length + quotes.length)
        if quotes.isEmpty then plain
        else plain ++ "'\"" ++ quotes ++ "\"'" ++ inside steps rest

/-- Writes variables in the order of their names. -/
def listVariables (machine : Machine) (lead : Text) (isMeant : Variable → Bool) : Machine :=
  let all := (machine.bindings.filter isMeant).mergeSort fun first second =>
    Text.precedes first.name second.name
  machine.putOutcome <| .ofText <| all.flatMap fun binding =>
    let value : Text :=
      match binding.value with
      | some value => "=" ++ singleQuoted value
      | none => []
    lead ++ binding.name ++ value ++ "\n"

/-- Does something with the variable that each word names, and gives it the value that the word assigns to
it, if it does. -/
def declareAll (machine : Machine) (command : Text) (change : Machine → Text → Machine)
    (words : List Text) : Machine :=
  words.foldl
    (fun machine word =>
      if !machine.isRunning then machine
      else
        let name := word.takeWhile (· ≠ '=')
        if !Reader.isName name then machine.abort (command ++ ": " ++ name ++ ": bad variable name")
        else if name.length < word.length then
          let assigned := machine.assignFor (command ++ ": ") name (word.drop (name.length + 1))
          if assigned.isRunning then change assigned name else assigned
        else change machine name)
    machine.succeed

/-- Publishes or fixes variables, or lists those that are. -/
def mark (machine : Machine) (command : Text) (change : Machine → Text → Machine)
    (isMarked : Variable → Bool) (words : List Text) : Machine :=
  match flags ['p'] words with
  | .error letter => machine.abort (illegal command letter)
  | .ok (found, names) =>
      if names.isEmpty ∨ found.contains 'p' then
        machine.listVariables (command ++ " ") isMarked
      else machine.declareAll command change names

/-- Remembers the variable that a name stands for outside the function. -/
def shadow (machine : Machine) (name : Text) : Machine :=
  { machine with
    locals := machine.locals.map fun locals =>
      if locals.any fun entry => entry.1 = name then locals
      else (name, machine.binding? name) :: locals }

def makeLocal (machine : Machine) (words : List Text) : Machine :=
  if machine.locals.isNone then machine.abort "local: not in a function"
  else
    words.foldl
      (fun machine word =>
        if !machine.isRunning then machine
        else
          let name : Text := word.takeWhile (· ≠ '=')
          if name = ['-'] then machine
          else if !Reader.isName name then
            machine.abort ("local: " ++ name ++ ": bad variable name")
          else
            let shadowed := machine.shadow name
            if name.length < word.length then
              shadowed.assignFor "local: " name (word.drop (name.length + 1))
            else shadowed)
      machine.succeed

def unset (machine : Machine) (words : List Text) : Machine :=
  match flags ['f', 'v'] words with
  | .error letter => machine.abort (illegal "unset" letter)
  | .ok (found, names) =>
      if found.getLast? = some 'f' then
        { machine with
          functions := machine.functions.filter fun entry => !names.contains entry.1
          status := 0 }
      else
        names.foldl
          (fun machine name =>
            if !machine.isRunning then machine
            else if !Reader.isName name then
              machine.abort ("unset: " ++ name ++ ": bad variable name")
            else if machine.isFixed name then machine.abort ("unset: " ++ name ++ ": is read only")
            else machine.unassign name)
          machine.succeed

/-- Switches options and replaces the parameters, or lists what there is. -/
def set (machine : Machine) (words : List Text) : Machine :=
  let start : SettingWords := { settings := machine.settings, rest := words }
  if words.isEmpty then machine.listVariables [] fun binding => binding.value.isSome
  else
    match start.read [] words.length with
    | .error error => machine.abort ("set: " ++ error.message)
    | .ok found =>
        let text := found.asked.flatMap fun sign =>
          if sign = '-' then found.settings.table else found.settings.commands
        let after := if text.isEmpty then machine else machine.putOutcome (.ofText text)
        { after with
          settings := found.settings
          parameters :=
            if found.isEnded ∨ !found.rest.isEmpty then found.rest else machine.parameters
          status := 0 }

end Machine

end AsmLens.Shell
