import AsmLens.CommandLine
import AsmLens.Proofs.Protocol

/-!
# What a command line asks

A run either ends before anything is compiled or inspects one line of one source file. An inquiry is all
that it needs to know for this; the stops are all the ways in which it can end without one.
-/

namespace AsmLens

/-- How a run ends whose arguments lead to nothing. -/
def Stop.ending : Stop → Ending
  | .help => { exitCode := .rejected, help := Arguments.help }
  | .refused error => { exitCode := .rejected, usage := Arguments.refusal error }

/-- An attempt never fails: it comes back with the failure. -/
theorem Action.attempt_apply {α : Type} (action : Action α) (session : Session) :
    attempt action session = (.ok (action session).1, (action session).2) :=
  rfl

namespace CommandLine

/-- A source line to be inspected, and how. -/
structure Inquiry where
  arguments : Arguments
  context : Int
  toolchain : Toolchain
  location : SourceLocation

/-- The arguments can be read, the context is a number of lines, and the environment has a toolchain. -/
structure Configures (environment : Environment) (argv : List Text) (arguments : Arguments)
    (context : Int) (toolchain : Toolchain) : Prop where
  reads : Arguments.read argv = .ok arguments
  counts : CommandLine.context arguments.settings = .ok context
  nonneg : 0 ≤ context
  equips : Toolchain.ofEnvironment environment = .ok toolchain

/-- A command line that is in order asks for a line that a source file in some language has. -/
structure Asks (environment : Environment) (argv : List Text) (tree : FileTree) (inquiry : Inquiry) :
    Prop where
  configures : Configures environment argv inquiry.arguments inquiry.context inquiry.toolchain
  points : position tree inquiry.arguments =
    .ok (inquiry.location.path, some inquiry.location.line)
  supported : Language.ofFile? inquiry.location.path.toText ≠ none
  reads : SourceLocation.read tree inquiry.location.path inquiry.location.line = .ok inquiry.location

/-- How a run can end before it inspects anything. -/
inductive Stops (environment : Environment) (argv : List Text) (tree : FileTree) :
    Except Failure Ending → Prop
  | unread {stop : Stop} (hread : Arguments.read argv = .error stop) :
      Stops environment argv tree (.ok stop.ending)
  | uncounted {arguments : Arguments} {failure : Failure}
      (hread : Arguments.read argv = .ok arguments)
      (hcontext : context arguments.settings = .error failure) :
      Stops environment argv tree (.error failure)
  | negative {arguments : Arguments} {count : Int} (hread : Arguments.read argv = .ok arguments)
      (hcontext : context arguments.settings = .ok count) (hnegative : count < 0) :
      Stops environment argv tree (.ok { exitCode := .rejected, errors := "context must be >= 0\n" })
  | unequipped {arguments : Arguments} {count : Int} {failure : Failure}
      (hread : Arguments.read argv = .ok arguments)
      (hcontext : context arguments.settings = .ok count) (hcount : 0 ≤ count)
      (htoolchain : Toolchain.ofEnvironment environment = .error failure) :
      Stops environment argv tree
        (.ok
          { exitCode := .rejected
            errors := "Invalid configuration: " ++ failure.message ++ "\n" })
  | unplaced {arguments : Arguments} {count : Int} {toolchain : Toolchain} {failure : Failure}
      (hconfigures : Configures environment argv arguments count toolchain)
      (hposition : position tree arguments = .error failure) :
      Stops environment argv tree (.error failure)
  | unsupported {arguments : Arguments} {count : Int} {toolchain : Toolchain} {path : Path}
      {line? : Option Int} (hconfigures : Configures environment argv arguments count toolchain)
      (hposition : position tree arguments = .ok (path, line?))
      (hlanguage : Language.ofFile? path.toText = none) :
      Stops environment argv tree (.ok { exitCode := .rejected })
  | unlocated {arguments : Arguments} {count : Int} {toolchain : Toolchain} {path : Path}
      {line? : Option Int} {error : SourceError}
      (hconfigures : Configures environment argv arguments count toolchain)
      (hposition : position tree arguments = .ok (path, line?))
      (hlanguage : Language.ofFile? path.toText ≠ none)
      (hlocate : locate tree path line? = .error (.source error)) :
      Stops environment argv tree
        (.ok { exitCode := .rejected, errors := error.message ++ "\n" })
  | lost {arguments : Arguments} {count : Int} {toolchain : Toolchain} {path : Path}
      {line? : Option Int} {failure : Failure}
      (hconfigures : Configures environment argv arguments count toolchain)
      (hposition : position tree arguments = .ok (path, line?))
      (hlanguage : Language.ofFile? path.toText ≠ none)
      (hlocate : locate tree path line? = .error failure)
      (hfailure : ∀ error, failure ≠ .source error) :
      Stops environment argv tree (.error failure)

/-- The session in which the arguments and the toolchain are known. -/
def equipped (session : Session) (settings : Settings) (toolchain : Toolchain) : Session :=
  (if settings.verbose then { session with threshold := .debug } else session).record .debug
    ("Toolchain configuration loaded (config=" ++ toolchain.description ++ ")")

@[simp]
theorem tree_equipped (session : Session) (settings : Settings) (toolchain : Toolchain) :
    (equipped session settings toolchain).tree = session.tree := by
  unfold equipped
  split <;> simp

/-- The object file that an inquiry asks for, unless the user or a temporary directory is missing. -/
def Inquiry.object (inquiry : Inquiry) (host : Host) : Except Failure Path :=
  objectPath host inquiry.arguments.settings

/-- What comes of inspecting the line that is asked for, and the session afterwards. -/
def Inquiry.inspected (inquiry : Inquiry) (host : Host) (runner : Runner) (session : Session) :
    Except Failure Inspection × Session :=
  inspectAt host runner inquiry.toolchain inquiry.arguments.settings inquiry.location
    (equipped session inquiry.arguments.settings inquiry.toolchain)

variable {host : Host} {environment : Environment} {runner : Runner} {argv : List Text}
  {session : Session} {arguments : Arguments} {count : Int} {toolchain : Toolchain}

theorem Inquiry.inspected_of_object {inquiry : Inquiry} {object : Path}
    (hobject : inquiry.object host = .ok object) (runner : Runner) (session : Session) :
    inquiry.inspected host runner session =
      Inspection.run runner host.system inquiry.toolchain inquiry.location object
        (equipped session inquiry.arguments.settings inquiry.toolchain) := by
  unfold Inquiry.inspected inspectAt
  unfold Inquiry.object at hobject
  rw [hobject, Step.bind_of_ok (Action.ofExcept_apply ..)]

/-- Without a place for the object file nothing is inspected. -/
theorem Inquiry.inspected_of_placeless {inquiry : Inquiry} {failure : Failure}
    (hobject : inquiry.object host = .error failure) (runner : Runner) (session : Session) :
    inquiry.inspected host runner session =
      (.error failure, equipped session inquiry.arguments.settings inquiry.toolchain) := by
  unfold Inquiry.inspected inspectAt
  unfold Inquiry.object at hobject
  rw [hobject, Step.bind_of_error (Action.ofExcept_apply ..)]

theorem load_of_ok (hequips : Toolchain.ofEnvironment environment = .ok toolchain)
    (session : Session) :
    Toolchain.load environment session =
      (.ok toolchain, session.record .debug
        ("Toolchain configuration loaded (config=" ++ toolchain.description ++ ")")) := by
  unfold Toolchain.load
  rw [hequips]
  rfl

theorem load_of_error {failure : Failure}
    (hequips : Toolchain.ofEnvironment environment = .error failure) (session : Session) :
    Toolchain.load environment session = (.error failure, session) := by
  unfold Toolchain.load
  rw [hequips]
  rfl

/-- The rest of a run, once its arguments are read. -/
def afterArguments (host : Host) (environment : Environment) (runner : Runner)
    (arguments : Arguments) : Action Ending := do
  let context ← Action.ofExcept (context arguments.settings)
  if context < 0 then
    pure { exitCode := .rejected, errors := "context must be >= 0\n" }
  else
    match ← Action.attempt (Toolchain.load environment) with
    | .ok toolchain => inspect host runner toolchain context arguments
    | .error failure =>
        Action.log .warning ("Invalid environment configuration (error=" ++ failure.message ++ ")")
        pure
          { exitCode := .rejected
            errors := "Invalid configuration: " ++ failure.message ++ "\n" }

theorem run_of_read (hread : Arguments.read argv = .ok arguments) :
    run host environment runner argv session =
      afterArguments host environment runner arguments
        (if arguments.settings.verbose then { session with threshold := .debug } else session) := by
  unfold run
  rw [hread]
  simp only
  cases arguments.settings.verbose <;> rfl

theorem run_of_configures
    (hconfigures : Configures environment argv arguments count toolchain) :
    run host environment runner argv session =
      inspect host runner toolchain count arguments
        (equipped session arguments.settings toolchain) := by
  rw [run_of_read hconfigures.reads, afterArguments, hconfigures.counts]
  rw [Step.bind_of_ok (Action.ofExcept_apply ..), if_neg (Int.not_lt.mpr hconfigures.nonneg)]
  rw [Step.bind_of_ok (Action.attempt_apply ..), load_of_ok hconfigures.equips]
  rfl

theorem inspect_of_unplaced {failure : Failure}
    (hposition : position session.tree arguments = .error failure) :
    inspect host runner toolchain count arguments session = (.error failure, session) := by
  unfold inspect
  simp only
  rw [Step.bind_of_ok (Action.get_apply session), hposition]
  rfl

/-- The rest of an inspection, once it is known whether the source line can be read. -/
def afterLocation (host : Host) (runner : Runner) (toolchain : Toolchain) (context : Int)
    (settings : Settings) : Except Failure SourceLocation → Action Ending
  | .error (.source error) => do
      Action.log .warning ("Source location rejected (error=" ++ error.message ++ ")")
      pure { exitCode := .rejected, errors := error.message ++ "\n" }
  | .error failure => throw failure
  | .ok location => do
      let result ← Action.attempt (inspectAt host runner toolchain settings location)
      conclude settings toolchain context result

theorem inspect_of_position {path : Path} {line? : Option Int}
    (hposition : position session.tree arguments = .ok (path, line?))
    (hlanguage : Language.ofFile? path.toText ≠ none) :
    inspect host runner toolchain count arguments session =
      afterLocation host runner toolchain count arguments.settings (locate session.tree path line?)
        session := by
  obtain ⟨language, hlanguage⟩ := Option.ne_none_iff_exists'.mp hlanguage
  unfold inspect
  simp only
  rw [Step.bind_of_ok (Action.get_apply session), hposition,
    Step.bind_of_ok (Action.ofExcept_apply ..)]
  simp only
  rw [Step.bind_of_ok (Language.ofFileLogged_of_some hlanguage session)]
  simp only
  cases locate session.tree path line? with
  | ok location => rfl
  | error failure => cases failure <;> rfl

theorem inspect_of_unsupported {path : Path} {line? : Option Int}
    (hposition : position session.tree arguments = .ok (path, line?))
    (hlanguage : Language.ofFile? path.toText = none) :
    (inspect host runner toolchain count arguments session).1 = .ok { exitCode := .rejected } := by
  obtain ⟨final, hlogged, _⟩ := Language.ofFileLogged_apply path.toText session
  rw [hlanguage] at hlogged
  unfold inspect
  simp only
  rw [Step.bind_of_ok (Action.get_apply session), hposition,
    Step.bind_of_ok (Action.ofExcept_apply ..)]
  simp only
  rw [Step.bind_of_ok hlogged]
  rfl

/-- A line that is located is the one that was asked for. -/
theorem locate_eq_ok {tree : FileTree} {path : Path} {line? : Option Int} {location : SourceLocation}
    (hlocate : locate tree path line? = .ok location) :
    line? = some location.line ∧ path = location.path ∧
      SourceLocation.read tree path location.line = .ok location := by
  cases line? with
  | none =>
      rw [locate] at hlocate
      cases hcontent : SourceLocation.content tree path <;>
        simp [hcontent, bind, Except.bind] at hlocate
  | some line =>
      obtain ⟨hpath, hline⟩ := SourceLocation.eq_of_read hlocate
      rw [hpath, hline]
      exact ⟨rfl, rfl, hlocate⟩

/-- What an inquiry asks is inspected, and the run ends with what comes of it. -/
theorem run_of_asks {inquiry : Inquiry} (hasks : Asks environment argv session.tree inquiry) :
    run host environment runner argv session =
      conclude inquiry.arguments.settings inquiry.toolchain inquiry.context
        (inquiry.inspected host runner session).1 (inquiry.inspected host runner session).2 := by
  have htree := tree_equipped session inquiry.arguments.settings inquiry.toolchain
  have hpoints := hasks.points
  have hlocate : locate session.tree inquiry.location.path (some inquiry.location.line) =
      .ok inquiry.location := hasks.reads
  rw [← htree] at hpoints hlocate
  rw [run_of_configures hasks.configures, inspect_of_position hpoints hasks.supported, hlocate]
  rfl

/-- A stop says how the run ends. -/
theorem run_of_stops {result : Except Failure Ending}
    (hstops : Stops environment argv session.tree result) :
    (run host environment runner argv session).1 = result := by
  cases hstops with
  | @unread stop hread =>
      unfold run
      rw [hread]
      cases stop <;> rfl
  | uncounted hread hcontext =>
      rw [run_of_read hread, afterArguments, hcontext]
      rfl
  | negative hread hcontext hnegative =>
      rw [run_of_read hread, afterArguments, hcontext, Step.bind_of_ok (Action.ofExcept_apply ..),
        if_pos hnegative]
      rfl
  | unequipped hread hcontext hcount htoolchain =>
      rw [run_of_read hread, afterArguments, hcontext, Step.bind_of_ok (Action.ofExcept_apply ..),
        if_neg (Int.not_lt.mpr hcount), Step.bind_of_ok (Action.attempt_apply ..),
        load_of_error htoolchain]
      rfl
  | @unplaced arguments count toolchain failure hconfigures hposition =>
      rw [← tree_equipped session arguments.settings toolchain] at hposition
      rw [run_of_configures hconfigures, inspect_of_unplaced hposition]
  | @unsupported arguments count toolchain path line? hconfigures hposition hlanguage =>
      rw [← tree_equipped session arguments.settings toolchain] at hposition
      rw [run_of_configures hconfigures, inspect_of_unsupported hposition hlanguage]
  | @unlocated arguments count toolchain path line? error hconfigures hposition hlanguage hlocate =>
      rw [← tree_equipped session arguments.settings toolchain] at hposition hlocate
      rw [run_of_configures hconfigures, inspect_of_position hposition hlanguage, hlocate]
      rfl
  | @lost arguments count toolchain path line? failure hconfigures hposition hlanguage hlocate
      hfailure =>
      rw [← tree_equipped session arguments.settings toolchain] at hposition hlocate
      rw [run_of_configures hconfigures, inspect_of_position hposition hlanguage, hlocate]
      cases failure with
      | source error => exact absurd rfl (hfailure error)
      | _ => rfl

theorem stops_or_asks_of_configures
    (hconfigures : Configures environment argv arguments count toolchain) (tree : FileTree) :
    (∃ result, Stops environment argv tree result) ∨
      ∃ inquiry, Asks environment argv tree inquiry := by
  cases hposition : position tree arguments with
  | error failure => exact .inl ⟨_, .unplaced hconfigures hposition⟩
  | ok placed =>
      obtain ⟨path, line?⟩ := placed
      by_cases hlanguage : Language.ofFile? path.toText = none
      · exact .inl ⟨_, .unsupported hconfigures hposition hlanguage⟩
      · cases hlocate : locate tree path line? with
        | error failure =>
            by_cases hsource : ∃ error, failure = .source error
            · obtain ⟨error, rfl⟩ := hsource
              exact .inl ⟨_, .unlocated hconfigures hposition hlanguage hlocate⟩
            · exact .inl ⟨_, .lost hconfigures hposition hlanguage hlocate
                (not_exists.mp hsource)⟩
        | ok location =>
            obtain ⟨rfl, rfl, hread⟩ := locate_eq_ok hlocate
            exact .inr ⟨⟨arguments, count, toolchain, location⟩, hconfigures, hposition, hlanguage,
              hread⟩

/-- A run stops, or it has something to inspect. -/
theorem stops_or_asks (environment : Environment) (argv : List Text) (tree : FileTree) :
    (∃ result, Stops environment argv tree result) ∨
      ∃ inquiry, Asks environment argv tree inquiry := by
  cases hread : Arguments.read argv with
  | error stop => exact .inl ⟨_, .unread hread⟩
  | ok arguments =>
      cases hcontext : context arguments.settings with
      | error failure => exact .inl ⟨_, .uncounted hread hcontext⟩
      | ok count =>
          by_cases hcount : 0 ≤ count
          · cases htoolchain : Toolchain.ofEnvironment environment with
            | error failure => exact .inl ⟨_, .unequipped hread hcontext hcount htoolchain⟩
            | ok toolchain =>
                have hconfigures : Configures environment argv arguments count toolchain :=
                  ⟨hread, hcontext, hcount, htoolchain⟩
                exact stops_or_asks_of_configures hconfigures tree
          · exact .inl ⟨_, .negative hread hcontext (Int.not_le.mp hcount)⟩

end CommandLine

end AsmLens
