import AsmLens.FileTree.Files
import AsmLens.Log
import AsmLens.Runner.Basic
import AsmLens.Text.Quoted

namespace AsmLens

/-- All that a step can change: the file tree, the log with the level from which on it keeps records,
and the calls of the runner. -/
structure Session where
  tree : FileTree
  threshold : Level
  records : List LogRecord
  calls : List Call
  deriving DecidableEq, Repr

/-- A step of a session. What it has changed stays changed when it fails. -/
abbrev Action := ExceptT Failure (StateM Session)

namespace Session

def start (tree : FileTree) (threshold : Level) : Session :=
  ⟨tree, threshold, [], []⟩

def record (session : Session) (level : Level) (message : Text) : Session :=
  if session.threshold.rank ≤ level.rank then
    { session with records := session.records ++ [⟨level, message⟩] }
  else
    session

end Session

namespace Action

def log (level : Level) (message : Text) : Action Unit :=
  modify fun session => session.record level message

def onTree {α : Type} (action : TreeAction α) : Action α :=
  fun session =>
    let (result, tree) := action session.tree
    (result, { session with tree })

def ofExcept {α : Type} : Except Failure α → Action α
  | .ok value => pure value
  | .error failure => throw failure

/-- The result of a step, and its error if it is one of the operating system's. -/
def catchOs {α : Type} (action : Action α) : Action (Except OsError α) :=
  fun session =>
    match action session with
    | (.ok value, changed) => (.ok (.ok value), changed)
    | (.error (.os error), changed) => (.ok (.error error), changed)
    | (.error failure, changed) => (.error failure, changed)

/-- Has the runner run a program. -/
def call (runner : Runner) (argv : List Text) (mergeErrors : Bool) : Action Reply := do
  if runner.announces then
    log .debug ("Running process (argv=" ++ Text.quotedList argv ++ ")")
  let session ← get
  let request : Call := ⟨argv, mergeErrors, session.tree⟩
  let (answer, tree) := runner.answer session.calls.length request
  set { session with tree, calls := session.calls ++ [request] }
  ofExcept (answer.mapError StartError.failure)

end Action

end AsmLens
