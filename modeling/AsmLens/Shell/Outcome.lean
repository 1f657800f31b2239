import AsmLens.Runner.System
import AsmLens.Text.Utf8

namespace AsmLens.Shell

/-- What a program has written, in order, and its exit status. -/
structure Outcome where
  written : List (Channel × List UInt8) := []
  status : Nat := 0
  deriving DecidableEq, Repr

namespace Outcome

def ofStatus (status : Nat) : Outcome :=
  { status }

def ofBytes (bytes : List UInt8) : Outcome :=
  { written := [(.output, bytes)] }

def ofText (text : Text) : Outcome :=
  ofBytes text.encode

def ofError (message : Text) (status : Nat) : Outcome :=
  ⟨[(.errors, message.encode)], status⟩

/-- Two outcomes one after the other. The greater status counts. -/
def append (first second : Outcome) : Outcome :=
  ⟨first.written ++ second.written, max first.status second.status⟩

/-- The same outcome with all errors before all output. -/
def errorsFirst (outcome : Outcome) : Outcome :=
  let errors := outcome.written.filter fun part => part.1 = .errors
  { outcome with
    written := errors ++ outcome.written.filter fun part => part.1 = .output }

end Outcome

end AsmLens.Shell
