import AsmLens.Text.Basic

namespace AsmLens.Shell

/-- What an option takes: nothing, a word, or a word that is written right behind it if there is one. -/
inductive OptionKind where
  | flag
  | valued
  | optional
  deriving DecidableEq

/-- An option with its letter and its long names. It goes by its letter if it has one. -/
structure OptionForm where
  letter : Option Char
  names : List Text
  kind : OptionKind

namespace OptionForm

def key (form : OptionForm) : Text :=
  match form.letter with
  | some letter => [letter]
  | none => form.names.headD []

/-- An option as it is written in a table: a letter, a colon if it takes a word and two if it may, and
the long names behind a sign of equality. -/
def ofText (text : Text) : OptionForm :=
  let (letter, rest) : Option Char × Text :=
    match text with
    | c :: rest => if c = ':' ∨ c = '=' then (none, text) else (some c, rest)
    | [] => (none, [])
  let (kind, rest) : OptionKind × Text :=
    match rest with
    | ':' :: ':' :: rest => (.optional, rest)
    | ':' :: rest => (.valued, rest)
    | rest => (.flag, rest)
  ⟨letter, if rest.isEmpty then [] else Text.cut ',' rest.tail, kind⟩

def table (text : String) : List OptionForm :=
  (Text.cut ' ' text.toList).map ofText

end OptionForm

inductive OptionError where
  | unknownLetter (letter : Char)
  | unknownName (word : Text)
  | ambiguous (word : Text) (names : List Text)
  | letterLacksValue (letter : Char)
  | nameLacksValue (name : Text)
  | needlessValue (name : Text)

def OptionError.message : OptionError → Text
  | .unknownLetter letter => "invalid option -- '" ++ [letter] ++ "'"
  | .unknownName word => "unrecognized option '--" ++ word ++ "'"
  | .ambiguous word names =>
      "option '--" ++ word ++ "' is ambiguous; possibilities:" ++
        names.flatMap fun name => (" '--" ++ name ++ "'" : Text)
  | .letterLacksValue letter => "option requires an argument -- '" ++ [letter] ++ "'"
  | .nameLacksValue name => "option '--" ++ name ++ "' requires an argument"
  | .needlessValue name => "option '--" ++ name ++ "' doesn't allow an argument"

/-- The options of a command by their keys, each with its value, and the words that are none. -/
structure Options where
  found : List (Text × Text) := []
  operands : List Text := []

namespace Options

def has (options : Options) (key : Text) : Bool :=
  options.found.any fun entry => entry.1 = key

def values (options : Options) (key : Text) : List Text :=
  options.found.filterMap fun entry => if entry.1 = key then some entry.2 else none

def value? (options : Options) (key : Text) : Option Text :=
  (options.values key).getLast?

/-- The last one of some options that are there. -/
def last? (options : Options) (keys : List Text) : Option Text :=
  ((options.found.filter fun entry => keys.contains entry.1).getLast?).map Prod.fst

def add (options : Options) (key value : Text) : Options :=
  { options with found := options.found ++ [(key, value)] }

/-- Reads letters behind one dash. Gives the option that still waits for a value, too. -/
def readLetters (forms : List OptionForm) :
    Options → Text → Except OptionError (Options × Option OptionForm)
  | options, [] => .ok (options, none)
  | options, letter :: rest =>
      match forms.find? fun form => form.letter = some letter with
      | none => .error (.unknownLetter letter)
      | some form =>
          match form.kind with
          | .flag => readLetters forms (options.add form.key []) rest
          | .optional => .ok (options.add form.key rest, none)
          | .valued =>
              if rest.isEmpty then .ok (options, some form)
              else .ok (options.add form.key rest, none)

/-- The option that a name stands for: its own name, or one that starts like it and is the only one. -/
def named (forms : List OptionForm) (name : Text) : Except OptionError (OptionForm × Text) :=
  let all := forms.flatMap fun form => form.names.map fun name => (form, name)
  match all.find? fun entry => entry.2 = name with
  | some entry => .ok entry
  | none =>
      match all.filter fun entry => name.isPrefixOf entry.2 with
      | [] => .error (.unknownName name)
      | entry :: others =>
          if others.all fun other => other.1.key = entry.1.key then .ok entry
          else .error (.ambiguous name ((entry :: others).map Prod.snd))

/-- Reads a name behind two dashes, and its value behind a sign of equality. -/
def readName (forms : List OptionForm) (options : Options) (word : Text) :
    Except OptionError (Options × Option OptionForm) := do
  let name := word.takeWhile (· ≠ '=')
  let value? := if name.length < word.length then some (word.drop (name.length + 1)) else none
  match named forms name with
  | .error (.unknownName _) => .error (.unknownName word)
  | .error error => .error error
  | .ok (form, name) =>
      match form.kind, value? with
      | .flag, some _ => .error (.needlessValue name)
      | .flag, none => .ok (options.add form.key [], none)
      | .optional, value? => .ok (options.add form.key (value?.getD []), none)
      | .valued, some value => .ok (options.add form.key value, none)
      | .valued, none => .ok (options, some { form with names := [name] })

/-- Reads the words of a command. Options may stand among the operands, unless the first operand ends
them; a double dash always does. -/
def read (forms : List OptionForm) (endsAtOperand : Bool) :
    Options → List Text → Except OptionError Options
  | options, [] => .ok options
  | options, ['-', '-'] :: rest => .ok { options with operands := options.operands ++ rest }
  | options, ('-' :: c :: letters) :: rest =>
      let step :=
        if c = '-' then readName forms options letters else readLetters forms options (c :: letters)
      match step with
      | .error error => .error error
      | .ok (options, none) => read forms endsAtOperand options rest
      | .ok (options, some form) =>
          match rest with
          | value :: rest => read forms endsAtOperand (options.add form.key value) rest
          | [] =>
              .error <|
                match form.letter with
                | some letter =>
                    if c = '-' then .nameLacksValue (form.names.headD [])
                    else .letterLacksValue letter
                | none => .nameLacksValue (form.names.headD [])
  | options, word :: rest =>
      if endsAtOperand then .ok { options with operands := options.operands ++ word :: rest }
      else read forms endsAtOperand { options with operands := options.operands ++ [word] } rest

end Options

/-- A number that is made of digits only. -/
def count? (word : Text) : Option Nat :=
  if word ≠ [] ∧ word.all Char.isDigit then
    some (word.foldl (fun value c => 10 * value + (c.toNat - '0'.toNat)) 0)
  else
    none

end AsmLens.Shell
