import AsmLens.Proofs.Escape

/-!
# Input that is rejected

A run rejects its input before it calls the runner or touches the file tree; only a report that cannot
be written is refused afterwards. Once the source line has been read, none of the later checks on its
language can fail. The presenter is the exception: an option without a value is found out only when the
listing is about to be shown.
-/

namespace AsmLens

namespace Failure

/-- The failures of an inspection whose source file has a language. -/
def OfInspection : Failure → Prop
  | .os _ | .nulByte | .nestedTooDeep _ | .unknownAccount _ | .noWords | .split _ | .linkLoop _
  | .compilation _ | .disassembly _ => True
  | _ => False

/-- The failures for which the words of the command line are to blame, and the files that they name. -/
def OfArguments : Failure → Prop
  | .os _ | .nulByte | .tooManyDigits _ | .missingNumber => True
  | _ => False

/-- The failures of a check that has been made before: a language is known, and so are its compiler and
its flags. -/
def OfLanguage : Failure → Prop
  | .unsupportedFile _ | .noCompiler _ | .noFlags _ => True
  | _ => False

theorem OfTree.ofInspection {failure : Failure} (htree : failure.OfTree) : failure.OfInspection := by
  cases failure <;> trivial

theorem OfInspection.not_ofLanguage {failure : Failure} (hinspection : failure.OfInspection) :
    ¬ failure.OfLanguage ∧ ∀ name, failure ≠ .unknownPresenter name := by
  cases failure <;> simp_all [OfInspection, OfLanguage]

theorem OfArguments.not_ofLanguage {failure : Failure} (harguments : failure.OfArguments) :
    ¬ failure.OfLanguage ∧ ∀ name, failure ≠ .unknownPresenter name := by
  cases failure <;> simp_all [OfArguments, OfLanguage]

end Failure

namespace Action

variable {α β : Type} {allowed : Failure → Prop} {action : Action α} {next : α → Action β}

/-- Wherever the action starts, it fails in an allowed way or not at all. -/
def FailsOnly (allowed : Failure → Prop) (action : Action α) : Prop :=
  ∀ session failure, (action session).1 = .error failure → allowed failure

theorem failsOnly_pure (value : α) : (pure value : Action α).FailsOnly allowed := by
  rintro session failure ⟨⟩

theorem failsOnly_throw {failure : Failure} (hfailure : allowed failure) :
    (throw failure : Action α).FailsOnly allowed := by
  rintro session other ⟨⟩
  exact hfailure

theorem failsOnly_log (level : Level) (message : Text) : (log level message).FailsOnly allowed := by
  rintro session failure ⟨⟩

theorem failsOnly_get : (get : Action Session).FailsOnly allowed := by
  rintro session failure ⟨⟩

theorem failsOnly_ofExcept {result : Except Failure α}
    (hresult : ∀ failure, result = .error failure → allowed failure) :
    (ofExcept result).FailsOnly allowed := by
  intro session failure hfailure
  rw [ofExcept_apply] at hfailure
  exact hresult failure hfailure

theorem failsOnly_onTree {step : TreeAction α}
    (hstep : ∀ {tree failure changed}, step tree = (.error failure, changed) → allowed failure) :
    (onTree step).FailsOnly allowed := by
  intro session failure hfailure
  exact hstep (Prod.ext hfailure rfl)

theorem FailsOnly.bind (haction : action.FailsOnly allowed)
    (hnext : ∀ value, (next value).FailsOnly allowed) : (action >>= next).FailsOnly allowed := by
  intro session failure hfailure
  rcases Step.error_or_exists_of_bind_eq_error (Prod.ext hfailure rfl) with hfirst |
    ⟨value, between, _, hsecond⟩
  · exact haction session failure (congrArg Prod.fst hfirst)
  · exact hnext value between failure (congrArg Prod.fst hsecond)

theorem FailsOnly.catchOs (haction : action.FailsOnly allowed) : (catchOs action).FailsOnly allowed := by
  intro session failure hfailure
  cases hresult : action session with
  | mk result changed =>
      cases result with
      | ok value =>
          rw [catchOs_of_ok hresult] at hfailure
          cases hfailure
      | error other =>
          by_cases hos : ∃ error, other = .os error
          · obtain ⟨error, rfl⟩ := hos
            rw [catchOs_of_os hresult] at hfailure
            cases hfailure
          · rw [catchOs_of_failure hresult (not_exists.mp hos)] at hfailure
            cases hfailure
            exact haction session _ (congrArg Prod.fst hresult)

theorem failsOnly_call (runner : Runner) (argv : List Text) (mergeErrors : Bool) :
    (call runner argv mergeErrors).FailsOnly Failure.OfInspection := by
  intro session failure hfailure
  rw [call_apply] at hfailure
  cases hanswer : (runner.answer session.calls.length ⟨argv, mergeErrors, session.tree⟩).1 with
  | ok reply =>
      rw [hanswer] at hfailure
      cases hfailure
  | error error =>
      rw [hanswer] at hfailure
      cases error <;> cases hfailure <;> trivial

end Action

theorem ShellWords.ofInspection_of_split {commandLine : Text} {failure : Failure}
    (hfailure : (split commandLine).mapError Failure.split = .error failure) : failure.OfInspection := by
  cases hargv : split commandLine with
  | ok argv =>
      rw [hargv] at hfailure
      cases hfailure
  | error error =>
      rw [hargv] at hfailure
      cases hfailure
      trivial

theorem Compilation.failsOnly_run (runner : Runner) (commandLine : Text) (object : Path) :
    (run runner commandLine object).FailsOnly Failure.OfInspection := by
  have hthere : (run.isThere object).FailsOnly Failure.OfInspection := by
    refine Action.failsOnly_get.bind fun session => Action.failsOnly_ofExcept fun failure hfailure => ?_
    cases hthere : session.tree.isThere object with
    | ok there =>
        rw [hthere] at hfailure
        cases hfailure
    | error error =>
        rw [hthere] at hfailure
        cases hfailure
        trivial
  unfold run
  refine (Action.failsOnly_ofExcept fun _ => ShellWords.ofInspection_of_split).bind fun argv => ?_
  refine (Action.failsOnly_call runner argv true).catchOs.bind fun answer => ?_
  cases answer with
  | error error =>
      exact (Action.failsOnly_log _ _).bind fun _ => hthere.bind fun _ => Action.failsOnly_pure _
  | ok reply =>
      exact hthere.bind fun _ => (Action.failsOnly_log _ _).bind fun _ => Action.failsOnly_pure _

theorem Disassembly.failsOnly_run (runner : Runner) (toolchain : Toolchain) (system : Text)
    (object : Path) : (run runner toolchain system object).FailsOnly Failure.OfInspection := by
  refine (Action.failsOnly_ofExcept fun _ => ShellWords.ofInspection_of_split).bind fun argv => ?_
  refine (Action.failsOnly_call runner argv false).catchOs.bind fun answer => ?_
  cases answer with
  | error error => exact (Action.failsOnly_log _ _).bind fun _ => Action.failsOnly_pure _
  | ok reply =>
      simp only
      split
      · exact (Action.failsOnly_log _ _).bind fun _ => Action.failsOnly_pure _
      · exact (Action.failsOnly_log _ _).bind fun _ => Action.failsOnly_pure _

theorem ListingMatch.failsOnly_findLogged (listing sourceLine marker : Text)
    {allowed : Failure → Prop} : (findLogged listing sourceLine marker).FailsOnly allowed := by
  intro session failure hfailure
  obtain ⟨final, hfound, _⟩ := findLogged_apply listing sourceLine marker session
  rw [hfound] at hfailure
  cases hfailure

namespace Inspection

variable {runner : Runner} {system : Text} {toolchain : Toolchain} {location : SourceLocation}
  {object : Path} {session : Session}

theorem failsOnly_afterCompilation (command : CompileCommand) (compilation : Compilation) :
    (afterCompilation runner system toolchain location object command compilation).FailsOnly
      Failure.OfInspection := by
  unfold afterCompilation
  split
  · refine (Disassembly.failsOnly_run runner toolchain system object).bind fun disassembly => ?_
    unfold afterDisassembly
    split
    · exact (ListingMatch.failsOnly_findLogged _ _ _).bind fun _ => Action.failsOnly_pure _
    · exact Action.failsOnly_throw trivial
  · exact Action.failsOnly_throw trivial

/-- Whatever the runner does, the inspection of a file with a language fails for the files or for the
programs. -/
theorem ofInspection_of_run {failure : Failure}
    (hlanguage : Language.ofFile? location.path.toText ≠ none)
    (hrun : (run runner system toolchain location object session).1 = .error failure) :
    failure.OfInspection := by
  obtain ⟨language, hlanguage⟩ := Option.ne_none_iff_exists'.mp hlanguage
  cases hinput : session.tree.resolve location.path with
  | error other =>
      rw [run_of_unresolved hlanguage hinput] at hrun
      cases hrun
      rcases FileTree.resolve_eq_error hinput with rfl | rfl | ⟨text, rfl⟩
      · trivial
      · trivial
      · trivial
  | ok input =>
      rw [run_of_supported hlanguage hinput] at hrun
      refine Action.FailsOnly.bind ?_ (fun _ => ?_) _ failure hrun
      · exact Action.failsOnly_onTree fun hprepare => (ObjectFile.ofTree_of_prepare hprepare).ofInspection
      · exact (Compilation.failsOnly_run runner _ object).bind fun _ => failsOnly_afterCompilation _ _

end Inspection

namespace CommandLine

variable {host : Host} {environment : Environment} {runner : Runner} {argv : List Text}
  {session after : Session} {result : Except Failure Ending}

@[simp]
theorem calls_equipped (session : Session) (settings : Settings) (toolchain : Toolchain) :
    (equipped session settings toolchain).calls = session.calls := by
  unfold equipped
  split <;> simp

/-- Nothing was done to the file tree, and the runner was not called. -/
def Untouched (session after : Session) : Prop :=
  after.tree = session.tree ∧ after.calls = session.calls

theorem untouched_record {between : Session} (huntouched : Untouched session between) (level : Level)
    (message : Text) : Untouched session (between.record level message) := by
  obtain ⟨htree, hcalls⟩ := huntouched
  exact ⟨by simpa, by simpa⟩

theorem untouched_equipped (session : Session) (settings : Settings) (toolchain : Toolchain) :
    Untouched session (equipped session settings toolchain) :=
  ⟨tree_equipped .., calls_equipped ..⟩

theorem untouched_of_unsupported {toolchain : Toolchain} {context : Int} {arguments : Arguments}
    {before : Session} {path : Path} {line? : Option Int} (huntouched : Untouched session before)
    (hposition : position before.tree arguments = .ok (path, line?))
    (hlanguage : Language.ofFile? path.toText = none) :
    Untouched session (inspect host runner toolchain context arguments before).2 := by
  obtain ⟨final, hlogged, htree, hcalls⟩ := Language.ofFileLogged_apply path.toText before
  rw [hlanguage] at hlogged
  unfold inspect
  simp only
  rw [Step.bind_of_ok (Action.get_apply before), hposition,
    Step.bind_of_ok (Action.ofExcept_apply ..)]
  simp only
  rw [Step.bind_of_ok hlogged]
  exact ⟨htree.trans huntouched.1, hcalls.trans huntouched.2⟩

/-- A run that stops has done nothing. -/
theorem untouched_of_stops (hstops : Stops environment argv session.tree result) :
    Untouched session (run host environment runner argv session).2 := by
  cases hstops with
  | @unread stop hread =>
      unfold run
      rw [hread]
      cases stop <;> exact untouched_record ⟨rfl, rfl⟩ _ _
  | uncounted hread hcontext =>
      rw [run_of_read hread, afterArguments, hcontext]
      change Untouched session (if _ then _ else _)
      split <;> exact ⟨rfl, rfl⟩
  | negative hread hcontext hnegative =>
      rw [run_of_read hread, afterArguments, hcontext, Step.bind_of_ok (Action.ofExcept_apply ..),
        if_pos hnegative]
      change Untouched session (if _ then _ else _)
      split <;> exact ⟨rfl, rfl⟩
  | unequipped hread hcontext hcount htoolchain =>
      rw [run_of_read hread, afterArguments, hcontext, Step.bind_of_ok (Action.ofExcept_apply ..),
        if_neg (Int.not_lt.mpr hcount), Step.bind_of_ok (Action.attempt_apply ..),
        load_of_error htoolchain]
      refine untouched_record ?_ _ _
      split <;> exact ⟨rfl, rfl⟩
  | @unplaced arguments count toolchain failure hconfigures hposition =>
      rw [← tree_equipped session arguments.settings toolchain] at hposition
      rw [run_of_configures hconfigures, inspect_of_unplaced hposition]
      exact untouched_equipped ..
  | @unsupported arguments count toolchain path line? hconfigures hposition hlanguage =>
      rw [← tree_equipped session arguments.settings toolchain] at hposition
      rw [run_of_configures hconfigures]
      exact untouched_of_unsupported (untouched_equipped ..) hposition hlanguage
  | @unlocated arguments count toolchain path line? error hconfigures hposition hlanguage hlocate =>
      rw [← tree_equipped session arguments.settings toolchain] at hposition hlocate
      rw [run_of_configures hconfigures, inspect_of_position hposition hlanguage, hlocate]
      exact untouched_record (untouched_equipped ..) _ _
  | @lost arguments count toolchain path line? failure hconfigures hposition hlanguage hlocate
      hfailure =>
      rw [← tree_equipped session arguments.settings toolchain] at hposition hlocate
      rw [run_of_configures hconfigures, inspect_of_position hposition hlanguage, hlocate]
      cases failure with
      | source error => exact absurd rfl (hfailure error)
      | _ => exact untouched_equipped ..

theorem ofArguments_of_stops {failure : Failure}
    (hstops : Stops environment argv session.tree (.error failure)) : failure.OfArguments := by
  cases hstops with
  | uncounted _ hcontext =>
      obtain ⟨_, rfl⟩ := context_eq_error_iff.mp hcontext
      trivial
  | unplaced _ hposition =>
      obtain ⟨_, hunclear⟩ := position_eq_error_iff.mp hposition
      cases hunclear <;> trivial
  | lost _ _ _ hlocate hfailure =>
      rcases (locate_eq_error_iff hfailure).mp hlocate with ⟨_, rfl⟩ | ⟨_, rfl, _⟩
      · trivial
      · trivial

/-- The report was made, and the file that it was to be written to refused it. -/
def RefusesReport (host : Host) (environment : Environment) (runner : Runner) (argv : List Text)
    (session : Session) : Prop :=
  ∃ inquiry inspection between path error changed,
    Asks environment argv session.tree inquiry ∧
    inquiry.inspected host runner session = (.ok inspection, between) ∧
    inquiry.arguments.settings.format = .json ∧
    outputFile inquiry.arguments.settings = some path ∧
    inspection.writeReport (Path.ofText path) between.tree = (.error (.os error), changed)

/-- The listing was made, and the option that was to name its presenter has no value. -/
def LacksPresenter (host : Host) (environment : Environment) (runner : Runner) (argv : List Text)
    (session : Session) : Prop :=
  ∃ inquiry inspection between,
    Asks environment argv session.tree inquiry ∧
    inquiry.inspected host runner session = (.ok inspection, between) ∧
    inquiry.arguments.settings.format = .listing ∧
    inquiry.arguments.settings.presenter = .nothing

theorem ofInspection_of_inspected {inquiry : Inquiry} {failure : Failure}
    (hasks : Asks environment argv session.tree inquiry)
    (hinspected : (inquiry.inspected host runner session).1 = .error failure) :
    failure.OfInspection := by
  cases hobject : inquiry.object host with
  | ok object =>
      rw [Inquiry.inspected_of_object hobject] at hinspected
      exact Inspection.ofInspection_of_run hasks.supported hinspected
  | error other =>
      rw [Inquiry.inspected_of_placeless hobject] at hinspected
      obtain rfl := Except.error.inj hinspected
      obtain ⟨_, hlogin | ⟨_, error, _, _, rfl⟩⟩ := objectPath_eq_error_iff.mp hobject
      · obtain ⟨_, number, _, rfl⟩ := login_eq_error_iff.mp hlogin
        trivial
      · trivial

/-- A run that rejects what it was asked for has done nothing, but for a report that was refused. -/
theorem untouched_of_rejected {ending : Ending}
    (hrun : run host environment runner argv session = (.ok ending, after))
    (hrejected : ending.exitCode = .rejected)
    (hwritten : ¬ RefusesReport host environment runner argv session) : Untouched session after := by
  rcases stops_or_asks environment argv session.tree with ⟨result, hstops⟩ | ⟨inquiry, hasks⟩
  · have huntouched := @untouched_of_stops host environment runner argv session result hstops
    rwa [hrun] at huntouched
  · cases hinspected : inquiry.inspected host runner session with
    | mk result between =>
        cases result with
        | error failure =>
            have hconclude := conclude_of_inspected hasks hinspected hrun
            have hfailure := ofInspection_of_inspected hasks (congrArg Prod.fst hinspected)
            cases failure with
            | unsupportedFile => exact hfailure.elim
            | _ => cases hconclude <;> cases hrejected
        | ok inspection =>
            have hpresents := presents_of_inspected hasks hinspected hrun
            cases hpresents with
            | listing => cases hrejected
            | report => cases hrejected
            | file => cases hrejected
            | refused hformat hfile hwrite =>
                exact absurd ⟨inquiry, inspection, between, _, _, _, hasks, hinspected, hformat, hfile, hwrite⟩
                  hwritten

/-- A failure that leaves a run is none of a check on the language, and the presenter is unknown only
where its option has no value. -/
theorem failure_of_run {failure : Failure}
    (hrun : (run host environment runner argv session).1 = .error failure) :
    ¬ failure.OfLanguage ∧ ∀ name, failure = .unknownPresenter name →
      name = "[]".toList ∧ LacksPresenter host environment runner argv session := by
  rcases stops_or_asks environment argv session.tree with ⟨result, hstops⟩ | ⟨inquiry, hasks⟩
  · rw [run_of_stops hstops] at hrun
    subst hrun
    obtain ⟨hlanguage, hpresenter⟩ := (ofArguments_of_stops hstops).not_ofLanguage
    exact ⟨hlanguage, fun name hname => absurd hname (hpresenter name)⟩
  · rw [run_of_asks hasks] at hrun
    cases hinspected : inquiry.inspected host runner session with
    | mk result between =>
        rw [hinspected] at hrun
        cases result with
        | error other =>
            obtain ⟨rfl, _⟩ := conclude_eq_error_iff.mp hrun
            have hfailure := ofInspection_of_inspected hasks (congrArg Prod.fst hinspected)
            obtain ⟨hlanguage, hpresenter⟩ := hfailure.not_ofLanguage
            exact ⟨hlanguage, fun name hname => absurd hname (hpresenter name)⟩
        | ok inspection =>
            obtain ⟨result, final, hpresents⟩ := exists_presents inquiry.arguments.settings
              inquiry.toolchain inquiry.context inspection between
            obtain rfl : result = .error failure :=
              (congrArg Prod.fst hpresents.present_eq).symm.trans hrun
            cases hpresents with
            | unpresented hformat hpresenter =>
                obtain ⟨hnothing, rfl⟩ := presenter_eq_error_iff.mp hpresenter
                refine ⟨not_false, fun name hname => ?_⟩
                cases hname
                exact ⟨rfl, inquiry, inspection, between, hasks, hinspected, hformat, hnothing⟩
            | unwritten hformat hfile hwrite hfailure =>
                have htree : failure.OfTree := by
                  rcases Inspection.writeReport_eq_error hwrite with ⟨_, rfl⟩ | hpath
                  · trivial
                  · exact hpath.ofTree
                obtain ⟨hlanguage, hpresenter⟩ := htree.ofInspection.not_ofLanguage
                exact ⟨hlanguage, fun name hname => absurd hname (hpresenter name)⟩

theorem run_of_lacksPresenter (hlacks : LacksPresenter host environment runner argv session) :
    (run host environment runner argv session).1 = .error (.unknownPresenter "[]") := by
  obtain ⟨inquiry, inspection, between, hasks, hinspected, hformat, hnothing⟩ := hlacks
  have hpresents : Presents inquiry.arguments.settings inquiry.toolchain inquiry.context
      inspection between _ _ :=
    .unpresented hformat (presenter_eq_error_iff.mpr ⟨hnothing, rfl⟩)
  rw [run_of_asks hasks, hinspected]
  exact congrArg Prod.fst hpresents.present_eq

theorem compilerFor_tag (toolchain : Toolchain) (language : Language) :
    toolchain.compilerFor language.tag = .ok (toolchain.compiler language) ∧
      toolchain.flagsFor language.tag = .ok (toolchain.flags language) := by
  cases language <;> exact ⟨rfl, rfl⟩

/-- Rejected input has no effect, and a source line that was read is never rejected for its language.
The presenter is unknown exactly where the listing was made and the option for the presenter has no
value. -/
theorem rejection_has_no_effect (hrun : run host environment runner argv session = (result, after)) :
    (∀ ending, result = .ok ending → ending.exitCode = .rejected →
      ¬ RefusesReport host environment runner argv session → Untouched session after) ∧
    (∀ inquiry, Asks environment argv session.tree inquiry →
      (∃ language, Language.ofFile? inquiry.location.path.toText = some language ∧
        inquiry.toolchain.compilerFor language.tag = .ok (inquiry.toolchain.compiler language) ∧
        inquiry.toolchain.flagsFor language.tag = .ok (inquiry.toolchain.flags language)) ∧
      ∀ failure, (inquiry.inspected host runner session).1 = .error failure → ¬ failure.OfLanguage) ∧
    (∀ failure, result = .error failure → ¬ failure.OfLanguage) ∧
    ∀ name, result = .error (.unknownPresenter name) ↔
      name = "[]".toList ∧ LacksPresenter host environment runner argv session := by
  have hresult : (run host environment runner argv session).1 = result := congrArg Prod.fst hrun
  refine ⟨?_, fun inquiry hasks => ⟨?_, fun failure hfailure => ?_⟩, ?_, fun name => ⟨?_, ?_⟩⟩
  · rintro ending rfl hrejected hwritten
    exact untouched_of_rejected hrun hrejected hwritten
  · obtain ⟨language, hlanguage⟩ := Option.ne_none_iff_exists'.mp hasks.supported
    exact ⟨language, hlanguage, compilerFor_tag inquiry.toolchain language⟩
  · exact (ofInspection_of_inspected hasks hfailure).not_ofLanguage.1
  · rintro failure rfl
    exact (failure_of_run hresult).1
  · rintro rfl
    exact (failure_of_run hresult).2 name rfl
  · rintro ⟨rfl, hlacks⟩
    exact hresult.symm.trans (run_of_lacksPresenter hlacks)

/-- A suffix that stands for no language is rejected before anything is done. -/
theorem rejection_has_no_effect_on_other_suffix :
    ∃ ending after,
      run bareHost (fun _ => none) .idle ["f.txt", "--object-path", "x.o"] (.start sourceTree .warning) =
        (.ok ending, after) ∧
      ending.exitCode = .rejected ∧ after.tree = sourceTree ∧ after.calls = [] := by
  obtain ⟨after, hrun⟩ : ∃ after, run bareHost (fun _ => none) .idle ["f.txt", "--object-path", "x.o"]
      (.start sourceTree .warning) = (.ok { exitCode := .rejected }, after) := ⟨_, rfl⟩
  have hwritten : ¬ RefusesReport bareHost (fun _ => none) .idle ["f.txt", "--object-path", "x.o"]
      (.start sourceTree .warning) := by
    rintro ⟨inquiry, _, _, _, _, _, hasks, _, hformat, _⟩
    have hread : Arguments.read ["f.txt", "--object-path", "x.o"] =
        .ok ⟨"f.txt", { objectPath := some "x.o" }⟩ := rfl
    have harguments := Except.ok.inj (hread.symm.trans hasks.configures.reads)
    rw [← harguments] at hformat
    cases hformat
  obtain ⟨hrejected, _⟩ := rejection_has_no_effect hrun
  obtain ⟨htree, hcalls⟩ := hrejected _ rfl rfl hwritten
  exact ⟨_, after, hrun, rfl, htree, hcalls⟩

/-- The words that ask for the first line of the source file, and give no presenter to show it. -/
def presenterless : List Text :=
  ["f.c", "--object-path", "x.o", "--presenter=--"]

/-- The option for the presenter can be given without a value. This is found out only after both
programs have run and the object file has been left behind. -/
theorem presenter_without_value_is_found_out_late :
    (run bareHost (fun _ => none) (showing "f.c:1\n") presenterless (.start sourceTree .warning)).1 =
      .error (.unknownPresenter "[]") ∧
    (run bareHost (fun _ => none) (showing "f.c:1\n") presenterless
      (.start sourceTree .warning)).2.calls.length = 2 ∧
    (run bareHost (fun _ => none) (showing "f.c:1\n") presenterless
      (.start sourceTree .warning)).2.tree.get? ["x.o", "w"] = some (.file [] false) := by
  decide +kernel

end CommandLine

end AsmLens
