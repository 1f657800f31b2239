import AsmLens.Text.Basic

namespace AsmLens.Shell

/-- What can end a process from outside. -/
structure Signal where
  number : Nat
  name : Text
  /-- What a shell says about a command that it has ended, if it says something. -/
  notice : Option Text

namespace Signal

def all : List Signal := [
  ⟨1, "HUP", some "Hangup"⟩,
  ⟨2, "INT", none⟩,
  ⟨3, "QUIT", some "Quit"⟩,
  ⟨4, "ILL", some "Illegal instruction"⟩,
  ⟨5, "TRAP", some "Trace/breakpoint trap"⟩,
  ⟨6, "ABRT", some "Aborted"⟩,
  ⟨7, "BUS", some "Bus error"⟩,
  ⟨8, "FPE", some "Floating point exception"⟩,
  ⟨9, "KILL", some "Killed"⟩,
  ⟨10, "USR1", some "User defined signal 1"⟩,
  ⟨11, "SEGV", some "Segmentation fault"⟩,
  ⟨12, "USR2", some "User defined signal 2"⟩,
  ⟨13, "PIPE", none⟩,
  ⟨14, "ALRM", some "Alarm clock"⟩,
  ⟨15, "TERM", some "Terminated"⟩]

/-- The signals that do not end a process that has not asked for them. -/
def harmless : List (Nat × Text) :=
  [(17, "CHLD"), (18, "CONT"), (23, "URG"), (28, "WINCH")]

def ofNumber? (number : Nat) : Option Signal :=
  all.find? fun signal => signal.number = number

/-- The number of a signal that a word stands for: a name or a number. Zero asks for nothing. -/
def number? (word : Text) : Option Nat :=
  let named := all.map fun signal => (signal.number, signal.name)
  if word ≠ [] ∧ word.all Char.isDigit then
    let number := word.foldl (fun value c => 10 * value + (c.toNat - '0'.toNat)) 0
    if number ≤ 64 then some number else none
  else if word = "EXIT" then some 0
  else
    let name := if "SIG".toList.isPrefixOf word then word.drop 3 else word
    ((named ++ harmless).find? fun entry => entry.2 = name).map Prod.fst

/-- The name of a signal by its number. -/
def nameOf (number : Nat) : Text :=
  if number = 0 then "EXIT"
  else
    let named := all.map fun signal => (signal.number, signal.name)
    (((named ++ harmless).find? fun entry => entry.1 = number).map Prod.snd).getD
      (Text.ofNat number)

end Signal

end AsmLens.Shell
