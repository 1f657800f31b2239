import AsmLens.Toolchain

namespace AsmLens

inductive Format where
  | listing
  | json
  deriving DecidableEq, Repr

def Format.all : List Format :=
  [.listing, .json]

def Format.name : Format → Text
  | .listing => "listing"
  | .json => "json"

/-- What a command line says of a setting. An option can be given with nothing for its value. -/
inductive Setting (α : Type) where
  | absent
  | nothing
  | value (value : α)
  deriving DecidableEq, Repr

/-- What the options of a command line ask for. -/
structure Settings where
  line : Setting Int := .absent
  presenter : Setting PresenterKind := .absent
  context : Setting Int := .absent
  format : Format := .listing
  output : Option Text := none
  objectPath : Option Text := none
  verbose : Bool := false
  deriving DecidableEq, Repr

structure Arguments where
  source : Text
  settings : Settings
  deriving DecidableEq, Repr

inductive Flag where
  | help
  | line
  | presenter
  | context
  | format
  | output
  | objectPath
  | verbose
  deriving DecidableEq, Repr

namespace Flag

/-- The spellings of the options in the order in which they are listed. -/
def spellings : List (Text × Flag) :=
  [("-h", .help), ("--help", .help), ("--line", .line), ("--presenter", .presenter),
    ("--context", .context), ("--format", .format), ("--output", .output),
    ("--object-path", .objectPath), ("--verbose", .verbose)]

def ofSpelling? (spelling : Text) : Option Flag :=
  (spellings.find? fun entry => entry.1 = spelling).map Prod.snd

/-- All spellings of an option, as messages name it. -/
def label (flag : Flag) : Text :=
  Text.join "/" ((spellings.filter fun entry => entry.2 = flag).map Prod.fst)

def takesValue : Flag → Bool
  | .help | .verbose => false
  | _ => true

/-- The values an option is limited to. -/
def choices : Flag → List Text
  | .presenter => PresenterKind.all.map PresenterKind.name
  | .format => Format.all.map Format.name
  | _ => []

end Flag

inductive ArgumentError where
  | missingSource
  | unrecognized (arguments : List Text)
  | ambiguous (argument : Text) (candidates : List Text)
  | missingValue (flag : Flag)
  | invalidNumber (flag : Flag) (value : Text)
  | invalidChoice (flag : Flag) (value : Text)
  | ignoredValue (flag : Flag) (value : Text)
  deriving DecidableEq, Repr

def ArgumentError.message : ArgumentError → Text
  | .missingSource => "the following arguments are required: source"
  | .unrecognized arguments => "unrecognized arguments: " ++ Text.join " " arguments
  | .ambiguous argument candidates =>
      "ambiguous option: " ++ argument ++ " could match " ++ Text.join ", " candidates
  | .missingValue flag => "argument " ++ flag.label ++ ": expected one argument"
  | .invalidNumber flag value =>
      "argument " ++ flag.label ++ ": invalid int value: " ++ value.quoted
  | .invalidChoice flag value =>
      "argument " ++ flag.label ++ ": invalid choice: " ++ value.quoted ++ " (choose from " ++
        Text.join ", " (flag.choices.map Text.quoted) ++ ")"
  | .ignoredValue flag value =>
      "argument " ++ flag.label ++ ": ignored explicit argument " ++ value.quoted

end AsmLens
