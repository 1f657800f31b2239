import AsmLens.Proofs.Ending
import AsmLens.Proofs.Hindrance

/-!
# Failures that no exit code stands for

A run turns most failures into an exit code. The others leave it as they are; here they are told apart by
what causes them.
-/

namespace AsmLens

namespace SourceArgument

variable {tree : FileTree} {source : Text} {failure : Failure}

/-- A position is asked for but cannot be told: whether a file has the whole name is unknown, or the
line has too many digits. -/
inductive Unclear (tree : FileTree) (source : Text) : Failure → Prop
  | unseen {file digits : Text} {error : OsError}
      (hposition : position? source = some (file, digits))
      (hthere : tree.isThere (Path.ofText source) = .error error) : Unclear tree source (.os error)
  | tooManyDigits {file digits : Text} (hposition : position? source = some (file, digits))
      (hthere : tree.isThere (Path.ofText source) = .ok false)
      (hdigits : Text.digitLimit < digits.length) :
      Unclear tree source (.tooManyDigits digits.length)

theorem read_eq_error_iff : read tree source none = .error failure ↔ Unclear tree source failure := by
  constructor
  · intro hread
    rw [read] at hread
    split at hread
    · contradiction
    · next file digits hposition =>
        split at hread
        · next error hthere =>
            cases hread
            exact .unseen hposition hthere
        · contradiction
        · next hthere =>
            split at hread
            · next hdigits =>
                cases hread
                exact .tooManyDigits hposition hthere hdigits
            · contradiction
  · intro hunclear
    cases hunclear with
    | unseen hposition hthere => simp only [read, hposition, hthere]
    | tooManyDigits hposition hthere hdigits =>
        simp only [read, hposition, hthere, if_pos hdigits]

end SourceArgument

namespace SourceLocation

variable {tree : FileTree} {path : Path} {failure : Failure}

/-- The only failure that is not said of the source is a NUL byte in its path. -/
theorem content_eq_error_iff (hfailure : ∀ error, failure ≠ .source error) :
    content tree path = .error failure ↔ '\x00' ∈ path.toText ∧ failure = .nulByte := by
  by_cases hnul : '\x00' ∈ path.toText
  · have hread : tree.readText path = .error .nulByte := by
      rw [FileTree.readText, FileTree.onPath, if_pos (by simpa using hnul)]
      rfl
    simp [content, hread, hnul, eq_comm]
  · have hread : tree.readText path =
        ((tree.readBytes path.toText).mapError fun errno => Failure.os (errno.at path.toText)).map
          fun bytes => (Text.decode bytes).unifyNewlines := by
      rw [FileTree.readText, FileTree.onPath, if_neg (by simpa using hnul)]
    cases hbytes : tree.readBytes path.toText with
    | ok bytes => simp [content, hread, hbytes, hnul, Except.mapError, Except.map]
    | error errno =>
        simp [content, hread, hbytes, hnul, Except.mapError, Except.map, (hfailure _).symm]

/-- Nor is another one added when the line is picked. -/
theorem read_eq_error_iff {line : Int} (hfailure : ∀ error, failure ≠ .source error) :
    read tree path line = .error failure ↔ '\x00' ∈ path.toText ∧ failure = .nulByte := by
  rw [← @content_eq_error_iff tree path failure hfailure, read]
  cases hcontent : content tree path with
  | error other => simp [bind, Except.bind]
  | ok content =>
      simp only [bind, Except.bind, reduceCtorEq, iff_false]
      cases pick path content line with
      | ok location => simp [Except.mapError]
      | error error => simpa [Except.mapError] using (hfailure error).symm

end SourceLocation

namespace CommandLine

variable {host : Host} {environment : Environment} {runner : Runner} {argv : List Text}
  {session : Session} {tree : FileTree} {arguments : Arguments} {failure : Failure}

theorem position_eq_error_iff : position tree arguments = .error failure ↔
    arguments.settings.line = .absent ∧ SourceArgument.Unclear tree arguments.source failure := by
  rw [← SourceArgument.read_eq_error_iff, position]
  cases hline : arguments.settings.line with
  | nothing => simp
  | absent => cases SourceArgument.read tree arguments.source none <;> simp [Except.map]
  | value line => simp [SourceArgument.read, Except.map]

/-- Without a number, the line is asked for by an option that has none, and the source argument is all
of the path. -/
theorem position_eq_none_iff {path : Path} : position tree arguments = .ok (path, none) ↔
    arguments.settings.line = .nothing ∧ path = Path.ofText arguments.source := by
  rw [position]
  cases hline : arguments.settings.line with
  | nothing => simp [eq_comm]
  | absent =>
      cases SourceArgument.read tree arguments.source none <;> simp [Except.map, Prod.ext_iff]
  | value line => simp [SourceArgument.read, Except.map]

theorem locate_eq_error_iff {path : Path} {line? : Option Int}
    (hfailure : ∀ error, failure ≠ .source error) :
    locate tree path line? = .error failure ↔
      ('\x00' ∈ path.toText ∧ failure = .nulByte) ∨
        (line? = none ∧ failure = .missingNumber ∧ ∃ content,
          SourceLocation.content tree path = .ok content) := by
  cases line? with
  | some line => simp [locate, SourceLocation.read_eq_error_iff hfailure]
  | none =>
      rw [← @SourceLocation.content_eq_error_iff tree path failure hfailure, locate]
      cases hcontent : SourceLocation.content tree path with
      | error other => simp [bind, Except.bind]
      | ok content => simp [bind, Except.bind, eq_comm]

theorem context_eq_error_iff {settings : Settings} : context settings = .error failure ↔
    settings.context = .nothing ∧ failure = .missingNumber := by
  rw [context]
  cases settings.context <;> simp [eq_comm]

theorem presenter_eq_error_iff {settings : Settings} {toolchain : Toolchain} :
    presenter settings toolchain = .error failure ↔
      settings.presenter = .nothing ∧ failure = .unknownPresenter "[]" := by
  rw [presenter]
  cases settings.presenter <;> simp [eq_comm]

/-- There is no place for an object file if the user is unknown, or else for want of a temporary
directory. -/
theorem objectPath_eq_error_iff {settings : Settings} : objectPath host settings = .error failure ↔
    settings.objectPath.filter (· ≠ []) = none ∧
      (host.login = .error failure ∨ ∃ login error, host.login = .ok login ∧
        host.temporaryDirectory = .error error ∧ failure = .os error) := by
  rw [objectPath]
  cases settings.objectPath.filter (· ≠ []) with
  | some path => simp
  | none =>
      simp only [ObjectFile.defaultPathOn, true_and]
      cases host.login with
      | error other => simp [bind, Except.bind]
      | ok login =>
          cases host.temporaryDirectory <;> simp [bind, Except.bind, Except.mapError, pure, Except.pure, eq_comm]

theorem login_eq_error_iff : host.login = .error failure ↔
    host.environment.login? = none ∧
      ∃ number, host.account = .numbered number ∧ failure = .unknownAccount number := by
  rw [Host.login]
  cases host.environment.login? with
  | some login => simp
  | none => cases host.account <;> simp [Account.name, eq_comm]

variable (host environment runner argv session)

/-- Whatever the runner is called for in a run, it fails with errors of the operating system only. -/
def RaisesOsOnly : Prop :=
  ∀ inquiry object, Asks environment argv session.tree inquiry → inquiry.object host = .ok object →
    Inspection.RaisesOsOnly runner host.system inquiry.toolchain inquiry.location object
      (equipped session inquiry.arguments.settings inquiry.toolchain)

/-- The failures that leave a run, one constructor for each cause. -/
inductive Escape : Failure → Prop
  | contextWithoutNumber {arguments : Arguments} (hread : Arguments.read argv = .ok arguments)
      (hcontext : arguments.settings.context = .nothing) : Escape .missingNumber
  | unclear {arguments : Arguments} {count : Int} {toolchain : Toolchain} {failure : Failure}
      (hconfigures : Configures environment argv arguments count toolchain)
      (hline : arguments.settings.line = .absent)
      (hunclear : SourceArgument.Unclear session.tree arguments.source failure) : Escape failure
  | nulInSource {arguments : Arguments} {count : Int} {toolchain : Toolchain} {path : Path}
      {line? : Option Int} (hconfigures : Configures environment argv arguments count toolchain)
      (hposition : position session.tree arguments = .ok (path, line?))
      (hlanguage : Language.ofFile? path.toText ≠ none) (hnul : '\x00' ∈ path.toText) :
      Escape .nulByte
  | lineWithoutNumber {arguments : Arguments} {count : Int} {toolchain : Toolchain} {content : Text}
      (hconfigures : Configures environment argv arguments count toolchain)
      (hline : arguments.settings.line = .nothing)
      (hlanguage : Language.ofFile? (Path.ofText arguments.source).toText ≠ none)
      (hcontent : SourceLocation.content session.tree (Path.ofText arguments.source) =
        .ok content) : Escape .missingNumber
  | nameless {inquiry : Inquiry} {number : Nat}
      (hasks : Asks environment argv session.tree inquiry)
      (hdefault : inquiry.arguments.settings.objectPath.filter (· ≠ []) = none)
      (hlogin : host.environment.login? = none) (haccount : host.account = .numbered number) :
      Escape (.unknownAccount number)
  | hindered {inquiry : Inquiry} {object : Path} {failure : Failure}
      (hasks : Asks environment argv session.tree inquiry) (hobject : inquiry.object host = .ok object)
      (hhindrance : Inspection.Hindrance runner host.system inquiry.toolchain inquiry.location object
        (equipped session inquiry.arguments.settings inquiry.toolchain) failure)
      (hfailure : ∀ error, failure ≠ .os error) : Escape failure
  | nulInObject {inquiry : Inquiry} {object input : Path} {changed : FileTree}
      (hasks : Asks environment argv session.tree inquiry) (hobject : inquiry.object host = .ok object)
      (hinput : session.tree.resolve inquiry.location.path = .ok input)
      (hprepare : ObjectFile.prepare object session.tree = (.error .nulByte, changed)) :
      Escape .nulByte
  | deepObject {inquiry : Inquiry} {object input : Path}
      (hasks : Asks environment argv session.tree inquiry) (hobject : inquiry.object host = .ok object)
      (hinput : session.tree.resolve inquiry.location.path = .ok input)
      (hdeep : session.tree.TooDeep ObjectFile.room object.parent) :
      Escape (.nestedTooDeep .directories)
  | unpresented {inquiry : Inquiry} {inspection : Inspection} {between : Session}
      (hasks : Asks environment argv session.tree inquiry)
      (hinspected : inquiry.inspected host runner session = (.ok inspection, between))
      (hformat : inquiry.arguments.settings.format = .listing)
      (hpresenter : inquiry.arguments.settings.presenter = .nothing) :
      Escape (.unknownPresenter "[]")
  | nulInOutput {inquiry : Inquiry} {inspection : Inspection} {between : Session} {path : Text}
      {changed : FileTree} (hasks : Asks environment argv session.tree inquiry)
      (hinspected : inquiry.inspected host runner session = (.ok inspection, between))
      (hformat : inquiry.arguments.settings.format = .json)
      (hfile : outputFile inquiry.arguments.settings = some path)
      (hwrite : inspection.writeReport (Path.ofText path) between.tree =
        (.error .nulByte, changed)) : Escape .nulByte
  | deepOutput {inquiry : Inquiry} {inspection : Inspection} {between : Session} {path : Text}
      (hasks : Asks environment argv session.tree inquiry)
      (hinspected : inquiry.inspected host runner session = (.ok inspection, between))
      (hformat : inquiry.arguments.settings.format = .json)
      (hfile : outputFile inquiry.arguments.settings = some path)
      (hdeep : between.tree.TooDeep Inspection.reportRoom (Path.ofText path).parent) :
      Escape (.nestedTooDeep .directories)

variable {host environment runner argv session}

theorem escape_of_stops (hstops : Stops environment argv session.tree (.error failure)) :
    Escape host environment runner argv session failure := by
  cases hstops with
  | uncounted hread hcontext =>
      obtain ⟨hnothing, rfl⟩ := context_eq_error_iff.mp hcontext
      exact .contextWithoutNumber hread hnothing
  | unplaced hconfigures hposition =>
      obtain ⟨hline, hunclear⟩ := position_eq_error_iff.mp hposition
      exact .unclear hconfigures hline hunclear
  | lost hconfigures hposition hlanguage hlocate hfailure =>
      rcases (locate_eq_error_iff hfailure).mp hlocate with ⟨hnul, rfl⟩ | ⟨rfl, rfl, content, hcontent⟩
      · exact .nulInSource hconfigures hposition hlanguage hnul
      · obtain ⟨hline, rfl⟩ := position_eq_none_iff.mp hposition
        exact .lineWithoutNumber hconfigures hline hlanguage hcontent

/-- Without a place for the object file, it is the user that is unknown. -/
theorem escape_of_placeless {inquiry : Inquiry} (hasks : Asks environment argv session.tree inquiry)
    (hobject : inquiry.object host = .error failure) (hfailure : ¬ OfPrograms failure) :
    Escape host environment runner argv session failure := by
  obtain ⟨hdefault, hlogin | ⟨_, error, _, _, rfl⟩⟩ := objectPath_eq_error_iff.mp hobject
  · obtain ⟨hnone, number, haccount, rfl⟩ := login_eq_error_iff.mp hlogin
    exact .nameless hasks hdefault hnone haccount
  · exact absurd trivial hfailure

/-- An inquiry whose inspection fails with something else than its programs has no place for its object,
or was hindered, or the place could not be prepared. -/
theorem escape_of_inspected (hrunner : RaisesOsOnly host environment runner argv session)
    {inquiry : Inquiry} {between : Session}
    (hasks : Asks environment argv session.tree inquiry)
    (hinspected : inquiry.inspected host runner session = (.error failure, between))
    (hfailure : ¬ OfPrograms failure) : Escape host environment runner argv session failure := by
  obtain ⟨language, hlanguage⟩ := Option.ne_none_iff_exists'.mp hasks.supported
  cases hobject : inquiry.object host with
  | error other =>
      rw [Inquiry.inspected_of_placeless hobject] at hinspected
      obtain rfl := Except.error.inj (Prod.mk.inj hinspected).1
      exact escape_of_placeless hasks hobject hfailure
  | ok object =>
      rw [Inquiry.inspected_of_object hobject] at hinspected
      have hcalls := hrunner inquiry object hasks hobject
      rcases Inspection.exists_course_or_hindrance hcalls hlanguage with
        ⟨input, result, made, tree, hinput, hcourse⟩ | ⟨other, hhindrance⟩
      · -- Of the courses, only a failure at the object's place can be another than the programs'.
        obtain ⟨final, hrun, _⟩ := Inspection.run_of_course hinput hcourse
        obtain ⟨rfl, rfl⟩ := Prod.mk.inj (hinspected.symm.trans hrun)
        cases hcourse with
        | unsupported hnone => exact absurd hnone hasks.supported
        | unprepared _ hprepare =>
            rw [tree_equipped] at hinput hprepare
            rcases ObjectFile.prepare_eq_error hprepare with ⟨hdeep, rfl, _⟩ | ⟨_, hpath⟩
            · exact .deepObject hasks hobject hinput hdeep
            · cases hpath with
              | os error => exact absurd trivial hfailure
              | nulByte => exact .nulInObject hasks hobject hinput hprepare
        | notCompiled => exact absurd trivial hfailure
        | notDisassembled => exact absurd trivial hfailure
      · obtain ⟨final, hrun⟩ := Inspection.run_of_hindrance hcalls hhindrance
        obtain ⟨hsame, _⟩ := Prod.mk.inj (hinspected.symm.trans hrun)
        obtain rfl := Except.error.inj hsame
        refine .hindered hasks hobject hhindrance ?_
        rintro error rfl
        exact hfailure trivial

theorem conclude_eq_error_iff {settings : Settings} {toolchain : Toolchain} {context : Int}
    {other : Failure} :
    (conclude settings toolchain context (.error other) session).1 = .error failure ↔
      other = failure ∧ ¬ OfPrograms failure ∧ ∀ path, failure ≠ .unsupportedFile path := by
  constructor
  · intro hconclude
    cases other <;> cases hconclude <;> simp [OfPrograms]
  · rintro ⟨rfl, hprograms, hsupported⟩
    cases other with
    | os => exact absurd trivial hprograms
    | compilation => exact absurd trivial hprograms
    | disassembly => exact absurd trivial hprograms
    | unsupportedFile path => exact absurd rfl (hsupported path)
    | _ => rfl

/-- A place that cannot be prepared ends the run, if not with an error of the operating system. -/
theorem run_of_unprepared {inquiry : Inquiry} {object input : Path} {changed : FileTree}
    (hasks : Asks environment argv session.tree inquiry) (hobject : inquiry.object host = .ok object)
    (hinput : session.tree.resolve inquiry.location.path = .ok input)
    (hprepare : ObjectFile.prepare object session.tree = (.error failure, changed))
    (hfailure : ¬ OfPrograms failure ∧ ∀ path, failure ≠ .unsupportedFile path) :
    (run host environment runner argv session).1 = .error failure := by
  obtain ⟨language, hlanguage⟩ := Option.ne_none_iff_exists'.mp hasks.supported
  have htree := tree_equipped session inquiry.arguments.settings inquiry.toolchain
  rw [← htree] at hinput hprepare
  rw [run_of_asks hasks, Inquiry.inspected_of_object hobject,
    Inspection.run_of_unprepared hlanguage hinput hprepare]
  exact conclude_eq_error_iff.mpr ⟨rfl, hfailure⟩

/-- Every failure that leaves a run has one of the causes. -/
theorem escape_of_run (hrunner : RaisesOsOnly host environment runner argv session)
    (hrun : (run host environment runner argv session).1 = .error failure) :
    Escape host environment runner argv session failure := by
  rcases stops_or_asks environment argv session.tree with ⟨result, hstops⟩ | ⟨inquiry, hasks⟩
  · rw [run_of_stops hstops] at hrun
    exact escape_of_stops (hrun ▸ hstops)
  · rw [run_of_asks hasks] at hrun
    cases hinspected : inquiry.inspected host runner session with
    | mk result between =>
        rw [hinspected] at hrun
        cases result with
        | error other =>
            obtain ⟨rfl, hprograms, _⟩ := conclude_eq_error_iff.mp hrun
            exact escape_of_inspected hrunner hasks hinspected hprograms
        | ok inspection =>
            obtain ⟨result, final, hpresents⟩ := exists_presents inquiry.arguments.settings
              inquiry.toolchain inquiry.context inspection between
            obtain rfl : result = .error failure :=
              (congrArg Prod.fst hpresents.present_eq).symm.trans hrun
            cases hpresents with
            | unpresented hformat hpresenter =>
                obtain ⟨hnothing, rfl⟩ := presenter_eq_error_iff.mp hpresenter
                exact .unpresented hasks hinspected hformat hnothing
            | unwritten hformat hfile hwrite hfailure =>
                rcases Inspection.writeReport_eq_error hwrite with ⟨hdeep, rfl⟩ | hpath
                · exact .deepOutput hasks hinspected hformat hfile hdeep
                · cases hpath with
                  | os error => exact absurd rfl (hfailure error)
                  | nulByte => exact .nulInOutput hasks hinspected hformat hfile hwrite

/-- Every cause makes its failure leave the run. -/
theorem run_of_escape (hrunner : RaisesOsOnly host environment runner argv session)
    (hescape : Escape host environment runner argv session failure) :
    (run host environment runner argv session).1 = .error failure := by
  cases hescape with
  | contextWithoutNumber hread hcontext =>
      exact run_of_stops (.uncounted hread (context_eq_error_iff.mpr ⟨hcontext, rfl⟩))
  | unclear hconfigures hline hunclear =>
      exact run_of_stops (.unplaced hconfigures (position_eq_error_iff.mpr ⟨hline, hunclear⟩))
  | nulInSource hconfigures hposition hlanguage hnul =>
      have hfailure : ∀ error, Failure.nulByte ≠ .source error := by simp
      exact run_of_stops (.lost hconfigures hposition hlanguage
        ((locate_eq_error_iff hfailure).mpr (.inl ⟨hnul, rfl⟩)) hfailure)
  | lineWithoutNumber hconfigures hline hlanguage hcontent =>
      have hfailure : ∀ error, Failure.missingNumber ≠ .source error := by simp
      exact run_of_stops (.lost hconfigures (position_eq_none_iff.mpr ⟨hline, rfl⟩) hlanguage
        ((locate_eq_error_iff hfailure).mpr (.inr ⟨rfl, rfl, _, hcontent⟩)) hfailure)
  | @nameless inquiry number hasks hdefault hlogin haccount =>
      have hobject : inquiry.object host = .error (.unknownAccount number) :=
        objectPath_eq_error_iff.mpr
          ⟨hdefault, .inl (login_eq_error_iff.mpr ⟨hlogin, number, haccount, rfl⟩)⟩
      rw [run_of_asks hasks, Inquiry.inspected_of_placeless hobject]
      rfl
  | @hindered inquiry object failure hasks hobject hhindrance hfailure =>
      obtain ⟨final, hinspected⟩ :=
        Inspection.run_of_hindrance (hrunner inquiry object hasks hobject) hhindrance
      rw [run_of_asks hasks, Inquiry.inspected_of_object hobject, hinspected]
      refine conclude_eq_error_iff.mpr ⟨rfl, ?_⟩
      rcases hhindrance.cause with rfl | rfl | ⟨text, rfl⟩ | ⟨error, rfl⟩ | ⟨error, rfl⟩
      · simp [OfPrograms]
      · simp [OfPrograms]
      · simp [OfPrograms]
      · simp [OfPrograms]
      · exact absurd rfl (hfailure error)
  | @nulInObject inquiry object input changed hasks hobject hinput hprepare =>
      exact run_of_unprepared hasks hobject hinput hprepare ⟨not_false, by simp⟩
  | @deepObject inquiry object input hasks hobject hinput hdeep =>
      exact run_of_unprepared hasks hobject hinput (ObjectFile.prepare_of_tooDeep hdeep)
        ⟨not_false, by simp⟩
  | @unpresented inquiry inspection between hasks hinspected hformat hpresenter =>
      have hpresents : Presents inquiry.arguments.settings inquiry.toolchain inquiry.context
          inspection between _ _ :=
        .unpresented hformat (presenter_eq_error_iff.mpr ⟨hpresenter, rfl⟩)
      rw [run_of_asks hasks, hinspected]
      exact congrArg Prod.fst hpresents.present_eq
  | @nulInOutput inquiry inspection between path changed hasks hinspected hformat hfile hwrite =>
      have hpresents : Presents inquiry.arguments.settings inquiry.toolchain inquiry.context
          inspection between _ _ :=
        .unwritten hformat hfile hwrite (by simp)
      rw [run_of_asks hasks, hinspected]
      exact congrArg Prod.fst hpresents.present_eq
  | @deepOutput inquiry inspection between path hasks hinspected hformat hfile hdeep =>
      have hpresents : Presents inquiry.arguments.settings inquiry.toolchain inquiry.context
          inspection between _ _ :=
        .unwritten hformat hfile (Inspection.writeReport_of_tooDeep hdeep) (by simp)
      rw [run_of_asks hasks, hinspected]
      exact congrArg Prod.fst hpresents.present_eq

/-- A run without any of the causes ends. -/
theorem ends_of_forall_not_escape (hrunner : RaisesOsOnly host environment runner argv session)
    (hnone : ∀ failure, ¬ Escape host environment runner argv session failure) :
    ∃ ending, (run host environment runner argv session).1 = .ok ending ∧
      ending.exitCode.toNat ∈ [0, 1, 2] := by
  cases hrun : (run host environment runner argv session).1 with
  | error failure => exact absurd (escape_of_run hrunner hrun) (hnone failure)
  | ok ending => exact ⟨ending, rfl, by cases ending.exitCode <;> decide⟩

end CommandLine

end AsmLens
