import AsmLens.Failure
import AsmLens.Text.Blank

namespace AsmLens

/-- The values of the variables that are set. -/
abbrev Environment := Text → Option Text

namespace Environment

def ofList (bindings : List (Text × Text)) : Environment :=
  fun name => (bindings.find? fun entry => entry.1 = name).map Prod.snd

/-- The trimmed value of a variable, or a default where it is not set or blank. -/
def wordOr (environment : Environment) (name default : Text) : Text :=
  match environment name with
  | none => default
  | some value => if value.strip.isEmpty then default else value.strip

/-- The trimmed value of a variable, or a default where it is not set. A blank value is kept as the
empty one, which switches the default off. -/
def flagsOr (environment : Environment) (name default : Text) : Text :=
  match environment name with
  | none => default
  | some value => value.strip

/-- The variables that name the user, the most reliable one first. -/
def loginVariables : List Text :=
  ["LOGNAME", "USER", "LNAME", "USERNAME"]

def login? (environment : Environment) : Option Text :=
  loginVariables.findSome? fun name => (environment name).filter (· ≠ [])

end Environment

/-- The account that a run belongs to: it has a name, or nothing but a number. -/
inductive Account where
  | named (name : Text)
  | numbered (number : Nat)
  deriving DecidableEq, Repr

def Account.name : Account → Except Failure Text
  | .named name => .ok name
  | .numbered number => .error (.unknownAccount number)

/-- What a run is told about the machine it runs on. There may be no directory for temporary files. -/
structure Host where
  bindings : List (Text × Text)
  temporaryDirectory : Except OsError Text
  account : Account
  system : Text

def Host.environment (host : Host) : Environment :=
  Environment.ofList host.bindings

/-- The name of the user, or of the account where no variable gives one. -/
def Host.login (host : Host) : Except Failure Text :=
  match host.environment.login? with
  | some login => .ok login
  | none => host.account.name

end AsmLens
