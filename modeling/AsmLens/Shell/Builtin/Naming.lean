import AsmLens.Shell.Builtin.Variables

namespace AsmLens.Shell

namespace Machine

/-- The commands of the shell whose failures end a script and whose assignments stay. -/
def specialNames : List Text :=
  [":", ".", "break", "continue", "eval", "exec", "exit", "export", "local", "readonly", "return",
    "set", "shift", "times", "trap", "unset"]

/-- The other commands that the shell carries out itself. -/
def ordinaryNames : List Text :=
  ["alias", "bg", "cd", "command", "echo", "false", "fg", "getopts", "hash", "jobs", "kill", "printf",
    "pwd", "read", "test", "\x5b", "true", "type", "ulimit", "umask", "unalias", "wait"]

def isSpecial (name : Text) : Bool :=
  specialNames.contains name

/-- What a name stands for in a shell. -/
inductive Meaning where
  | keyword
  | shorthand (text : Text)
  | function
  | builtin (isSpecial : Bool)
  | program (path : Text)

/-- The first directory of a search path that holds a program of the name. -/
def programPath? (machine : Machine) (name : Text) : Option Text :=
  let paths := machine.searched.map fun directory =>
    if directory.isEmpty then name
    else if directory.getLast? = some '/' then directory ++ name
    else directory ++ "/" ++ name
  paths.find? fun path =>
    match Program.systemKind? machine.tree path, machine.tree.status path with
    | some _, _ => true
    | none, .ok (.file _ executable) => executable
    | _, _ => false

def meaning? (machine : Machine) (name : Text) : Option Meaning :=
  if Reader.reservedWords.contains name then some .keyword
  else
    match machine.aliases.find? fun entry => entry.1 = name with
    | some (_, text) => some (.shorthand text)
    | none =>
        if (machine.function? name).isSome then some .function
        else if isSpecial name then some (.builtin true)
        else if ordinaryNames.contains name then some (.builtin false)
        else if name.contains '/' then
          if (machine.tree.status name).isOk ∨ (Program.systemKind? machine.tree name).isSome then
            some (.program name)
          else none
        else (machine.programPath? name).map .program

def Meaning.text (name : Text) : Meaning → Text
  | .keyword => name ++ " is a shell keyword"
  | .shorthand text => name ++ " is an alias for " ++ text
  | .function => name ++ " is a shell function"
  | .builtin true => name ++ " is a special shell builtin"
  | .builtin false => name ++ " is a shell builtin"
  | .program path => name ++ " is " ++ path

/-- Tells what each name stands for. -/
def describe (machine : Machine) (names : List Text) : Machine :=
  names.foldl
    (fun machine name =>
      match machine.meaning? name with
      | some meaning =>
          let status := machine.status
          { machine.putOutcome (.ofText (meaning.text name ++ "\n")) with status }
      | none =>
          { machine.putOutcome (.ofText (name ++ ": not found\n")) with status := 127 })
    machine.succeed

/-- Tells by what a name can be called. -/
def locateCommand (machine : Machine) (name : Text) : Machine :=
  match machine.meaning? name with
  | none => { machine with status := 127 }
  | some (.shorthand text) =>
      machine.putOutcome (.ofText ("alias " ++ name ++ "=" ++ singleQuoted text ++ "\n"))
  | some (.program path) => machine.putOutcome (.ofText (path ++ "\n"))
  | some _ => machine.putOutcome (.ofText (name ++ "\n"))

/-- Sets or shows aliases. -/
def setAliases (machine : Machine) (words : List Text) : Machine :=
  let line (entry : Text × Text) : Text := entry.1 ++ "=" ++ singleQuoted entry.2 ++ "\n"
  let words := match words with
    | ['-', '-'] :: words => words
    | words => words
  if words.isEmpty then machine.putOutcome (.ofText (machine.aliases.flatMap line))
  else
    words.foldl
      (fun machine word =>
        let name : Text := word.takeWhile (· ≠ '=')
        let status := machine.status
        if name.length < word.length ∧ name ≠ [] then
          { machine with
            aliases := (machine.aliases.filter fun entry => entry.1 ≠ name) ++
              [(name, word.drop (name.length + 1))] }
        else
          match machine.aliases.find? fun entry => entry.1 = word with
          | some entry => { machine.putOutcome (.ofText (line entry)) with status }
          | none => machine.putOutcome (.ofError ("alias: " ++ word ++ " not found\n") 1))
      machine.succeed

def unalias (machine : Machine) (words : List Text) : Machine :=
  match flags ['a'] words with
  | .error letter => machine.complain (illegal "unalias" letter) 2
  | .ok (found, names) =>
      if found.contains 'a' then { machine with aliases := [], status := 0 }
      else
        names.foldl
          (fun machine name =>
            if machine.aliases.any fun entry => entry.1 = name then
              { machine with aliases := machine.aliases.filter fun entry => entry.1 ≠ name }
            else machine.putOutcome (.ofError ("unalias: " ++ name ++ " not found\n") 1))
          machine.succeed

/-- Looks programs up beforehand. -/
def hash (machine : Machine) (words : List Text) : Machine :=
  match flags ['r'] words with
  | .error letter => machine.complain (illegal "hash" letter) 2
  | .ok (_, names) =>
      names.foldl
        (fun machine name =>
          match machine.meaning? name with
          | some _ => machine
          | none => machine.complain ("hash: " ++ name ++ ": not found") 1)
        machine.succeed

end Machine

end AsmLens.Shell
