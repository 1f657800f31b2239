import AsmLens.Shell.Utility.Basic

namespace AsmLens.Shell

/-- What `env` starts: the words of a command, the variables that it is handed, and the directory where it
starts. Without a command the variables are written. -/
structure EnvironmentCall where
  bindings : List (Text × Text)
  directory : Option Text := none
  words : List Text := []
  ending : Text := "\n"

namespace EnvironmentCall

/-- Why the arguments of `env` are no call. -/
inductive Misuse where
  | options (error : OptionError)
  | needsCommand
  | cannotUnset (name : Text)
  | openQuote
  | loneBackslash
  | badEscape (c : Char)
  | badVariable (text : Text)

/-- The variables with one more, which takes the place of the one with its name. -/
def setVariable (bindings : List (Text × Text)) (name value : Text) : List (Text × Text) :=
  if bindings.any fun entry => entry.1 = name then
    bindings.map fun entry => if entry.1 = name then (name, value) else entry
  else bindings ++ [(name, value)]

/-- The words in a text, between quotes or not. The word that has begun is given, if one has. -/
def splitWords (environment : Environment) : Nat → Option Char → Option Text → Text →
    Except Misuse (List Text)
  | 0, _, _, _ => .ok []
  | _, some _, _, [] => .error .openQuote
  | _, none, word, [] => .ok word.toList
  | steps + 1, quote, word, c :: rest =>
      let begun := word.getD []
      let go (quote : Option Char) (added rest : Text) : Except Misuse (List Text) :=
        splitWords environment steps quote (some (begun ++ added)) rest
      if c = '\\' then
        match rest with
        | [] => .error .loneBackslash
        | next :: rest =>
            if quote = some '\'' ∧ next ≠ '\\' ∧ next ≠ '\'' then go quote ['\\', next] rest
            else if next = '_' ∧ quote.isNone then do
              .ok (word.toList ++ (← splitWords environment steps none none rest))
            else if next = '_' then go quote [' '] rest
            else if next = 'c' ∧ quote.isNone then .ok word.toList
            else
              let known : List (Char × Char) := [('f', '\x0c'), ('n', '\n'), ('r', '\r'),
                ('t', '\t'), ('v', '\x0b'), ('"', '"'), ('#', '#'), ('$', '$'), ('\'', '\''),
                ('\\', '\\')]
              match known.find? fun entry => entry.1 = next with
              | some (_, value) => go quote [value] rest
              | none => .error (.badEscape next)
      else if quote = some c then go none [] rest
      else if quote.isNone ∧ (c = '"' ∨ c = '\'') then go (some c) [] rest
      else if c = '$' ∧ quote ≠ some '\'' then
        match rest with
        | '\x7b' :: inside =>
            let name := inside.takeWhile (· ≠ '\x7d')
            if (inside.drop name.length).isEmpty then .error (.badVariable (c :: rest))
            else
              match environment name with
              | some value => go quote value (inside.drop (name.length + 1))
              | none => splitWords environment steps quote word (inside.drop (name.length + 1))
        | _ => .error (.badVariable (c :: rest))
      else if quote.isNone ∧ (" \t\n\x0b\x0c\r".toList.contains c) then do
        .ok (word.toList ++ (← splitWords environment steps none none rest))
      else if quote.isNone ∧ word.isNone ∧ c = '#' then .ok []
      else go quote [c] rest

/-- The text that is to be split if a word asks for that, and whether it is the next word. -/
def splitText? (word : Text) : Option (Text × Option Text) :=
  if "--split-string=".toList.isPrefixOf word then some ([], some (word.drop 15))
  else if word = "--split-string" then some ([], none)
  else
    match word with
    | '-' :: letters =>
        let flags := letters.takeWhile fun c => c = 'i' || c = '0' || c = 'v'
        match letters.drop flags.length with
        | 'S' :: rest => some (flags, if rest.isEmpty then none else some rest)
        | _ => none
    | _ => none

/-- The arguments in which each text that is to be split is, up to the first operand. -/
def splitArguments (environment : Environment) : Nat → List Text → Except Misuse (List Text)
  | 0, arguments => .ok arguments
  | _, [] => .ok []
  | steps + 1, word :: rest =>
      match splitText? word with
      | some (flags, text?) =>
          let kept : List Text := if flags.isEmpty then [] else ['-' :: flags]
          match text?, rest with
          | some text, rest => do
              let words ← splitWords environment (text.length + 1) none none text
              .ok (kept ++ (← splitArguments environment steps (words ++ rest)))
          | none, text :: rest => do
              let words ← splitWords environment (text.length + 1) none none text
              .ok (kept ++ (← splitArguments environment steps (words ++ rest)))
          | none, [] => .error (.options (.letterLacksValue 'S'))
      | none =>
          if word.head? = some '-' ∧ word ≠ ['-'] ∧ word ≠ ['-', '-'] then do
            let value := if word = ['-', 'u'] ∨ word = ['-', 'C'] then rest.take 1 else []
            let others ← splitArguments environment steps (rest.drop value.length)
            .ok (word :: value ++ others)
          else .ok (word :: rest)

def ofArguments (environment : Environment) (bindings : List (Text × Text))
    (arguments : List Text) : Except Misuse EnvironmentCall := do
  let arguments ← splitArguments environment (arguments.length + 8) arguments
  let table := OptionForm.table
    "i=ignore-environment 0=null u:=unset C:=chdir v=debug ::=block-signal ::=default-signal"
  match Options.read table true {} arguments with
  | .error error => .error (.options error)
  | .ok options =>
      let (isBare, operands) : Bool × List Text :=
        match options.operands with
        | ['-'] :: rest => (true, rest)
        | rest => (false, rest)
      let wrong := (options.values "u").find? fun name => name.isEmpty ∨ name.contains '='
      match wrong with
      | some name => .error (.cannotUnset name)
      | none => do
          let isAssignment (word : Text) : Bool := word.contains '='
          let start := if isBare ∨ options.has "i" then [] else bindings
          let kept := start.filter fun entry => !(options.values "u").contains entry.1
          let given := (operands.takeWhile isAssignment).foldl
            (fun bindings word =>
              let name : Text := word.takeWhile (· ≠ '=')
              setVariable bindings name (word.drop (name.length + 1)))
            kept
          let words := operands.dropWhile isAssignment
          if words.isEmpty ∧ options.has "C" then .error .needsCommand
          else
            .ok ⟨given, options.value? "C", words, if options.has "0" then ['\x00'] else "\n"⟩

/-- The names and values of the variables. -/
def listing (call : EnvironmentCall) : Text :=
  call.bindings.flatMap fun entry => entry.1 ++ "=" ++ entry.2 ++ call.ending

end EnvironmentCall

namespace Invocation

/-- The status of `env` when it cannot start anything. -/
def environmentFailure : Nat := 125

def splitHint (invocation : Invocation) : Text :=
  invocation.message "use -\x5bv\x5dS to pass options in shebang lines"

def environmentMisuse (invocation : Invocation) : EnvironmentCall.Misuse → Effect
  | .options (.unknownLetter letter) =>
      let hint := if letter = ' ' then invocation.splitHint else []
      invocation.report <| .ofError
        (invocation.message (OptionError.message (.unknownLetter letter)) ++ hint ++
          invocation.hint) environmentFailure
  | .options error => invocation.misuse error.message environmentFailure
  | .needsCommand =>
      invocation.misuse "must specify command with --chdir (-C)" environmentFailure
  | .cannotUnset name =>
      invocation.refuse ("cannot unset " ++ curled name ++ ": Invalid argument") environmentFailure
  | .openQuote => invocation.refuse "no terminating quote in -S string" environmentFailure
  | .loneBackslash =>
      invocation.refuse "invalid backslash at end of string in -S" environmentFailure
  | .badEscape c =>
      invocation.refuse ("invalid sequence '\\" ++ [c] ++ "' in -S") environmentFailure
  | .badVariable text =>
      invocation.refuse
        ("only $\x7bVARNAME\x7d expansion is supported, error at: " ++ text) environmentFailure

/-- The complaint about a command that cannot be started. -/
def cannotStart (invocation : Invocation) (name : Text) (errno : Errno) : Effect :=
  let isAbsent := errno = .noEntry
  let hint := if isAbsent ∧ name.contains ' ' then invocation.splitHint else []
  invocation.report <| .ofError
    (invocation.message (curled name ++ ": " ++ errno.text) ++ hint)
    (if isAbsent then 127 else 126)

end Invocation

end AsmLens.Shell
