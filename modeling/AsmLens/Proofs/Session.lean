import AsmLens.Disassembly.Run
import AsmLens.Inspection
import AsmLens.Proofs.Steps

/-!
# What a step changes in a session

A step is a function of the session before it, so a sequence of steps is followed by giving the session
after each. Logging changes neither the file tree nor the calls; a call of the runner is added to the
calls and leaves the tree that the program leaves.
-/

namespace AsmLens

namespace Session

@[simp]
theorem tree_record (session : Session) (level : Level) (message : Text) :
    (session.record level message).tree = session.tree := by
  unfold record
  split <;> rfl

@[simp]
theorem calls_record (session : Session) (level : Level) (message : Text) :
    (session.record level message).calls = session.calls := by
  unfold record
  split <;> rfl

/-- The session after a runner has announced a call, if it announces calls. -/
def announce (session : Session) (runner : Runner) (argv : List Text) : Session :=
  if runner.announces then
    session.record .debug ("Running process (argv=" ++ Text.quotedList argv ++ ")")
  else
    session

@[simp]
theorem tree_announce (session : Session) (runner : Runner) (argv : List Text) :
    (session.announce runner argv).tree = session.tree := by
  unfold announce
  split <;> simp

@[simp]
theorem calls_announce (session : Session) (runner : Runner) (argv : List Text) :
    (session.announce runner argv).calls = session.calls := by
  unfold announce
  split <;> simp

/-- The session after a call that leaves some tree. -/
def called (session : Session) (call : Call) (tree : FileTree) : Session :=
  { session with tree, calls := session.calls ++ [call] }

@[simp]
theorem tree_called (session : Session) (call : Call) (tree : FileTree) :
    (session.called call tree).tree = tree :=
  rfl

@[simp]
theorem calls_called (session : Session) (call : Call) (tree : FileTree) :
    (session.called call tree).calls = session.calls ++ [call] :=
  rfl

end Session

namespace Action

variable {α : Type} {action : Action α} {session changed : Session}

theorem log_apply (level : Level) (message : Text) (session : Session) :
    log level message session = (.ok (), session.record level message) :=
  rfl

theorem get_apply (session : Session) : (get : Action Session) session = (.ok session, session) :=
  rfl

theorem ofExcept_apply (result : Except Failure α) (session : Session) :
    ofExcept result session = (result, session) := by
  cases result <;> rfl

/-- The words of a command line that can be cut are at hand; one that cannot be cut ends the action. -/
theorem ofExcept_split {commandLine : Text}
    {words : Except ShellWords.SplitError (List Text)}
    (hwords : ShellWords.split commandLine = words) (session : Session) :
    ofExcept ((ShellWords.split commandLine).mapError Failure.split) session =
      (words.mapError Failure.split, session) := by
  rw [hwords, ofExcept_apply]

theorem onTree_of_eq {step : TreeAction α} {result : Except Failure α} {tree : FileTree}
    (hstep : step session.tree = (result, tree)) :
    onTree step session = (result, { session with tree }) := by
  simp only [onTree]
  rw [hstep]

theorem catchOs_of_ok {value : α} (haction : action session = (.ok value, changed)) :
    catchOs action session = (.ok (.ok value), changed) := by
  simp only [catchOs]
  rw [haction]

theorem catchOs_of_os {error : OsError} (haction : action session = (.error (.os error), changed)) :
    catchOs action session = (.ok (.error error), changed) := by
  simp only [catchOs]
  rw [haction]

theorem catchOs_of_failure {failure : Failure} (haction : action session = (.error failure, changed))
    (hfailure : ∀ error, failure ≠ .os error) : catchOs action session = (.error failure, changed) := by
  simp only [catchOs]
  rw [haction]
  cases failure with
  | os error => exact absurd rfl (hfailure error)
  | _ => rfl

/-- A call asks the runner about the tree of the session, and the session goes on with its answer. -/
theorem call_apply (runner : Runner) (argv : List Text) (mergeErrors : Bool) (session : Session) :
    call runner argv mergeErrors session =
      ((runner.answer session.calls.length ⟨argv, mergeErrors, session.tree⟩).1.mapError
          StartError.failure,
        (session.announce runner argv).called ⟨argv, mergeErrors, session.tree⟩
          (runner.answer session.calls.length ⟨argv, mergeErrors, session.tree⟩).2) := by
  rw [← ofExcept_apply]
  unfold call Session.announce
  cases runner.announces with
  | true =>
      rw [if_pos rfl, if_pos rfl, Step.bind_of_ok (log_apply ..)]
      change ofExcept _ (Session.called _ _ _) = _
      simp
  | false => rfl

/-- A call that can fail with an error of the operating system only comes back with its answer. -/
theorem catchOs_call_apply {runner : Runner} {argv : List Text} {mergeErrors : Bool}
    {answer : Except OsError Reply} {tree : FileTree}
    (hanswer : runner.answer session.calls.length ⟨argv, mergeErrors, session.tree⟩ =
      (answer.mapError StartError.os, tree)) :
    catchOs (call runner argv mergeErrors) session =
      (.ok answer,
        (session.announce runner argv).called ⟨argv, mergeErrors, session.tree⟩ tree) := by
  have hcall := call_apply runner argv mergeErrors session
  rw [hanswer] at hcall
  cases answer with
  | error error => exact catchOs_of_os hcall
  | ok reply => exact catchOs_of_ok hcall

/-! ### Calls are never forgotten -/

/-- Every session that the action starts in has its calls at the beginning of those at the end. -/
def Grows (action : Action α) : Prop :=
  ∀ session, session.calls <+: (action session).2.calls

variable {β : Type} {next : α → Action β}

theorem grows_pure (value : α) : (pure value : Action α).Grows :=
  fun session => List.prefix_refl session.calls

theorem grows_throw (failure : Failure) : (throw failure : Action α).Grows :=
  fun session => List.prefix_refl session.calls

theorem grows_get : (get : Action Session).Grows :=
  fun session => List.prefix_refl session.calls

theorem grows_ofExcept (result : Except Failure α) : (ofExcept result).Grows := by
  intro session
  have hcalls : (ofExcept result session).2.calls = session.calls := by rw [ofExcept_apply]
  exact hcalls ▸ List.prefix_refl session.calls

theorem grows_log (level : Level) (message : Text) : (log level message).Grows := by
  intro session
  have hcalls : (log level message session).2.calls = session.calls := Session.calls_record ..
  exact hcalls ▸ List.prefix_refl session.calls

/-- What an action has called is still known after the actions that follow it. -/
theorem prefix_calls_bind (hnext : ∀ value, (next value).Grows) (session : Session) :
    (action session).2.calls <+: ((action >>= next) session).2.calls := by
  cases haction : action session with
  | mk result between =>
      cases result with
      | error failure =>
          have hbind : (action >>= next) session = (.error failure, between) :=
            Step.bind_of_error haction
          exact hbind ▸ List.prefix_refl between.calls
      | ok value =>
          rw [Step.bind_of_ok haction]
          exact hnext value between

theorem Grows.bind (haction : action.Grows) (hnext : ∀ value, (next value).Grows) :
    (action >>= next).Grows :=
  fun session => (haction session).trans (prefix_calls_bind hnext session)

theorem snd_catchOs (action : Action α) (session : Session) :
    (catchOs action session).2 = (action session).2 := by
  simp only [catchOs]
  split <;> next heq => rw [heq]

theorem calls_catchOs_call (runner : Runner) (argv : List Text) (mergeErrors : Bool)
    (session : Session) :
    (catchOs (call runner argv mergeErrors) session).2.calls =
      session.calls ++ [⟨argv, mergeErrors, session.tree⟩] := by
  rw [snd_catchOs, call_apply, Session.calls_called, Session.calls_announce]

theorem grows_catchOs_call (runner : Runner) (argv : List Text) (mergeErrors : Bool) :
    (catchOs (call runner argv mergeErrors)).Grows := by
  intro session
  rw [calls_catchOs_call]
  exact List.prefix_append session.calls _

end Action

end AsmLens
