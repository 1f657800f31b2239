import AsmLens.Arguments.Basic
import AsmLens.Text.Newline

namespace AsmLens

/-- Why a command line leads to no run: it asks for help, or it is refused. -/
inductive Stop where
  | help
  | refused (error : ArgumentError)
  deriving DecidableEq, Repr

/-- What one word of a command line looks like. After the first `--` all words are plain. -/
inductive Token where
  | plain (text : Text)
  | separator
  | option (spelling : Text) (flag : Flag) (value : Option Text)
  | unknown (text : Text)
  deriving DecidableEq, Repr

namespace Token

/-- The two sides of the first equals sign. -/
def cutAtEquals (text : Text) : Text × Option Text :=
  match text.dropWhile (· ≠ '=') with
  | [] => (text, none)
  | _ :: value => (text.takeWhile (· ≠ '='), some value)

def looksNegative (text : Text) : Bool :=
  match text.dropFinalNewline with
  | '-' :: digits =>
      let fraction := digits.dropWhile Text.isDigit
      match fraction with
      | [] => !digits.isEmpty
      | '.' :: decimals => !decimals.isEmpty && decimals.all Text.isDigit
      | _ => false
  | _ => false

/-- The options that a word may stand for when it is none by itself: a word with two dashes is the
beginning of an option, and one with a single dash is a letter and its value. -/
def candidates (text : Text) : List (Text × Flag × Option Text) :=
  match text with
  | '-' :: '-' :: _ =>
      let (start, value) := cutAtEquals text
      (Flag.spellings.filter fun entry => start.isPrefixOf entry.1).map fun entry =>
        (entry.1, entry.2, value)
  | _ =>
      Flag.spellings.filterMap fun entry =>
        if entry.1 = text.take 2 then some (entry.1, entry.2, some (text.drop 2))
        else if text.isPrefixOf entry.1 then some (entry.1, entry.2, none)
        else none

/-- A word that starts with a dash is an option, unless it is a negative number or holds a space. -/
def ofDashed (text : Text) : Except ArgumentError Token :=
  match Flag.ofSpelling? text with
  | some flag => .ok (.option text flag none)
  | none =>
      let (start, value) := cutAtEquals text
      match value, Flag.ofSpelling? start with
      | some value, some flag => .ok (.option start flag (some value))
      | _, _ =>
          match candidates text with
          | [(spelling, flag, value)] => .ok (.option spelling flag value)
          | [] =>
              .ok (if looksNegative text || text.contains ' ' then .plain text else .unknown text)
          | several => .error (.ambiguous text (several.map Prod.fst))

def ofWord (word : Text) : Except ArgumentError Token :=
  match word with
  | '-' :: _ :: _ => ofDashed word
  | _ => .ok (.plain word)

/-- The words up to the first `--` can be options. -/
def ofWords : List Text → Except ArgumentError (List Token)
  | [] => .ok []
  | word :: rest =>
      if word = "--" then
        .ok (.separator :: rest.map .plain)
      else do
        let token ← ofWord word
        let tokens ← ofWords rest
        pure (token :: tokens)

end Token

/-- A command line read up to some word. -/
structure Reading where
  source : Option Text := none
  extras : List Text := []
  settings : Settings := {}
  deriving DecidableEq, Repr

namespace Reading

def number (flag : Flag) (value : Text) : Except ArgumentError Int :=
  match value.readInt? with
  | some number => .ok number
  | none => .error (.invalidNumber flag value)

def choice {α : Type} (flag : Flag) (all : List α) (name : α → Text) (value : Text) :
    Except ArgumentError α :=
  match all.find? fun item => name item = value with
  | some item => .ok item
  | none => .error (.invalidChoice flag value)

/-- The settings after an option with nothing for its value. -/
def setNothing (settings : Settings) : Flag → Settings
  | .line => { settings with line := .nothing }
  | .context => { settings with context := .nothing }
  | .presenter => { settings with presenter := .nothing }
  | .format => { settings with format := .listing }
  | .output => { settings with output := none }
  | .objectPath => { settings with objectPath := none }
  | .help | .verbose => settings

/-- The settings after an option with a value. -/
def setValue (settings : Settings) (flag : Flag) (value : Text) : Except ArgumentError Settings :=
  match flag with
  | .line => (number flag value).map fun line => { settings with line := .value line }
  | .context => (number flag value).map fun context => { settings with context := .value context }
  | .presenter =>
      (choice flag PresenterKind.all PresenterKind.name value).map fun kind =>
        { settings with presenter := .value kind }
  | .format => (choice flag Format.all Format.name value).map fun format => { settings with format }
  | .output => .ok { settings with output := some value }
  | .objectPath => .ok { settings with objectPath := some value }
  | .help | .verbose => .ok settings

/-- The settings after an option and the word for its value, where two dashes stand for nothing. What
an option is given last counts. -/
def set (settings : Settings) (flag : Flag) (word : Text) : Except ArgumentError Settings :=
  if word = "--" then .ok (setNothing settings flag) else setValue settings flag word

/-- An option without a value. -/
def setSwitch (settings : Settings) (flag : Flag) : Except Stop Settings :=
  match flag with
  | .help => .error .help
  | .verbose => .ok { settings with verbose := true }
  | _ => .error (.refused (.missingValue flag))

/-- A switch to which a value is attached. The letters of one word may be switches each. -/
def setAttached (settings : Settings) (spelling : Text) (flag : Flag) (value : Text) :
    Except Stop Settings :=
  match spelling with
  | ['-', letter] =>
      match value.dropWhile (· = letter) with
      | [] => if value.isEmpty then .error (.refused (.ignoredValue flag value))
          else setSwitch settings flag
      | rest => .error (.refused (.ignoredValue flag rest))
  | _ => .error (.refused (.ignoredValue flag value))

/-- The first plain word is the source, and takes a `--` on either side of it along. All other words
that no option has taken are left over. -/
def consume (reading : Reading) : List Token → Except Stop Reading
  | [] => .ok reading
  | .plain text :: rest =>
      match reading.source with
      | some _ => consume { reading with extras := reading.extras ++ [text] } rest
      | none =>
          match rest with
          | .separator :: rest => consume { reading with source := some text } rest
          | rest => consume { reading with source := some text } rest
  | .separator :: rest =>
      match reading.source, rest with
      | none, .plain text :: rest => consume { reading with source := some text } rest
      | _, rest => consume { reading with extras := reading.extras ++ [("--" : Text)] } rest
  | .unknown text :: rest => consume { reading with extras := reading.extras ++ [text] } rest
  | .option spelling flag (some value) :: rest => do
      let settings ←
        if flag.takesValue then (set reading.settings flag value).mapError Stop.refused
        else setAttached reading.settings spelling flag value
      consume { reading with settings } rest
  | .option _ flag none :: rest =>
      if flag.takesValue then
        match rest with
        | .plain value :: rest => do
            let settings ← (set reading.settings flag value).mapError Stop.refused
            consume { reading with settings } rest
        | _ => .error (.refused (.missingValue flag))
      else do
        let settings ← setSwitch reading.settings flag
        consume { reading with settings } rest

def finish (reading : Reading) : Except Stop Arguments :=
  match reading.source, reading.extras with
  | none, _ => .error (.refused .missingSource)
  | some source, [] => .ok ⟨source, reading.settings⟩
  | some _, extras => .error (.refused (.unrecognized extras))

end Reading

/-- Reads the words of a command line. A word that could be several options is refused before any
option acts; else the options act in their order. -/
def Arguments.read (argv : List Text) : Except Stop Arguments := do
  let tokens ← (Token.ofWords argv).mapError Stop.refused
  let reading ← Reading.consume {} tokens
  reading.finish

end AsmLens
