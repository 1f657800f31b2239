import AsmLens.Proofs.FileTree.Writing
import AsmLens.Proofs.Inquiry

/-!
# The end of a run

An exit code tells what has happened before: an inspection came to its end and was written out, one of its
programs failed, or nothing was inspected at all. Nothing is written to the output but by a success.
-/

namespace AsmLens

namespace Inspection

variable {inspection : Inspection} {path : Path} {tree changed : FileTree}

/-- A report that was written is in its file. -/
theorem readBytes_of_writeReport
    (hwrite : inspection.writeReport path tree = (.ok (), changed)) :
    changed.readBytes path.toText = .ok inspection.report.encode := by
  obtain ⟨_, _, _, htext⟩ := Step.exists_of_bind_eq_ok hwrite
  exact TreeAction.readBytes_of_writeText htext

theorem writeReport_of_tooDeep (hdeep : tree.TooDeep reportRoom path.parent) :
    inspection.writeReport path tree = (.error (.nestedTooDeep .directories), tree) :=
  Step.bind_of_error (TreeAction.makeDirectoriesWithin_of_tooDeep hdeep)

/-- A report is not written for want of room, or for a reason of its path. -/
theorem writeReport_eq_error {failure : Failure}
    (hwrite : inspection.writeReport path tree = (.error failure, changed)) :
    (tree.TooDeep reportRoom path.parent ∧ failure = .nestedTooDeep .directories) ∨
      failure.OfPath path := by
  rcases Step.error_or_exists_of_bind_eq_error hwrite with hmake | ⟨_, _, _, htext⟩
  · rcases TreeAction.makeDirectoriesWithin_cases hmake with ⟨hdeep, hresult, _⟩ | ⟨_, hmake⟩
    · exact .inl ⟨hdeep, Except.error.inj hresult⟩
    · exact .inr ((TreeAction.makeDirectories_eq_error hmake).below
        fun name hname => List.dropLast_subset _ hname)
  · exact .inr (TreeAction.writeText_eq_error htext)

end Inspection

namespace CommandLine

/-- The file that an inspection is to be written to. -/
def outputFile (settings : Settings) : Option Text :=
  settings.output.filter (· ≠ [])

/-- What is said besides the output about a line that was looked for. -/
def remark (inspection : Inspection) : Text :=
  if inspection.position.isNone then notFound inspection.location else []

/-- What a presenter is given to show. -/
def viewOf (context : Int) (inspection : Inspection) : View :=
  ⟨inspection.listing, inspection.position.map fun found => found.lineIndex, context⟩

/-- All the ways in which an inspection can be written out. -/
inductive Presents (settings : Settings) (toolchain : Toolchain) (context : Int)
    (inspection : Inspection) (session : Session) : Except Failure Ending → Session → Prop
  | listing {kind : PresenterKind} (hformat : settings.format = .listing)
      (hpresenter : presenter settings toolchain = .ok kind) :
      Presents settings toolchain context inspection session
        (.ok
          { exitCode := .success
            output := presented kind (viewOf context inspection)
            errors := remark inspection })
        session
  | unpresented {failure : Failure} (hformat : settings.format = .listing)
      (hpresenter : presenter settings toolchain = .error failure) :
      Presents settings toolchain context inspection session (.error failure) session
  | report (hformat : settings.format = .json) (hfile : outputFile settings = none) :
      Presents settings toolchain context inspection session
        (.ok
          { exitCode := .success
            output := inspection.report ++ "\n"
            errors := remark inspection })
        session
  | file {path : Text} {tree : FileTree} (hformat : settings.format = .json)
      (hfile : outputFile settings = some path)
      (hwrite : inspection.writeReport (Path.ofText path) session.tree = (.ok (), tree)) :
      Presents settings toolchain context inspection session
        (.ok { exitCode := .success, errors := remark inspection }) { session with tree }
  | refused {path : Text} {tree : FileTree} {error : OsError}
      (hformat : settings.format = .json) (hfile : outputFile settings = some path)
      (hwrite : inspection.writeReport (Path.ofText path) session.tree =
        (.error (.os error), tree)) :
      Presents settings toolchain context inspection session
        (.ok
          { exitCode := .rejected
            errors :=
              remark inspection ++ "Failed to write JSON output file: " ++ path ++ "\n" })
        (({ session with tree } : Session).record .warning
          ("Failed to write JSON output file (output_path=" ++ path ++ " error=" ++
            error.message ++ ")"))
  | unwritten {path : Text} {tree : FileTree} {failure : Failure}
      (hformat : settings.format = .json) (hfile : outputFile settings = some path)
      (hwrite : inspection.writeReport (Path.ofText path) session.tree = (.error failure, tree))
      (hfailure : ∀ error, failure ≠ .os error) :
      Presents settings toolchain context inspection session (.error failure)
        { session with tree }

variable {settings : Settings} {toolchain : Toolchain} {context : Int} {inspection : Inspection}
  {session : Session}

/-- The end of a run, once it is known whether the report could be written to a file. -/
def afterWriting (inspection : Inspection) (path : Text) : Except OsError Unit → Action Ending
  | .ok () => pure { exitCode := .success, errors := remark inspection }
  | .error error => do
      Action.log .warning
        ("Failed to write JSON output file (output_path=" ++ path ++ " error=" ++
          error.message ++ ")")
      pure
        { exitCode := .rejected
          errors := remark inspection ++ "Failed to write JSON output file: " ++ path ++ "\n" }

theorem present_of_file {path : Text} (hformat : settings.format = .json)
    (hfile : outputFile settings = some path) :
    present settings toolchain context inspection session =
      (Action.catchOs (Action.onTree (inspection.writeReport (Path.ofText path))) >>=
        afterWriting inspection path) session := by
  unfold present
  rw [hformat]
  simp only
  rw [← outputFile, hfile]
  rfl

/-- A way of writing an inspection out says how the run ends. -/
theorem Presents.present_eq {result : Except Failure Ending} {after : Session}
    (hpresents : Presents settings toolchain context inspection session result after) :
    present settings toolchain context inspection session = (result, after) := by
  cases hpresents with
  | listing hformat hpresenter =>
      unfold present
      rw [hformat]
      simp only
      rw [hpresenter]
      rfl
  | unpresented hformat hpresenter =>
      unfold present
      rw [hformat]
      simp only
      rw [hpresenter]
      rfl
  | report hformat hfile =>
      unfold present
      rw [hformat]
      simp only
      rw [← outputFile, hfile]
      rfl
  | file hformat hfile hwrite =>
      rw [present_of_file hformat hfile,
        Step.bind_of_ok (Action.catchOs_of_ok (Action.onTree_of_eq hwrite))]
      rfl
  | refused hformat hfile hwrite =>
      rw [present_of_file hformat hfile,
        Step.bind_of_ok (Action.catchOs_of_os (Action.onTree_of_eq hwrite))]
      rfl
  | unwritten hformat hfile hwrite hfailure =>
      rw [present_of_file hformat hfile]
      exact Step.bind_of_error (Action.catchOs_of_failure (Action.onTree_of_eq hwrite) hfailure)

/-- However an inspection is written out, it is in one of these ways. -/
theorem exists_presents (settings : Settings) (toolchain : Toolchain) (context : Int)
    (inspection : Inspection) (session : Session) :
    ∃ result after, Presents settings toolchain context inspection session result after := by
  cases hformat : settings.format with
  | listing =>
      cases hpresenter : presenter settings toolchain with
      | ok kind => exact ⟨_, _, .listing hformat hpresenter⟩
      | error failure => exact ⟨_, _, .unpresented hformat hpresenter⟩
  | json =>
      cases hfile : outputFile settings with
      | none => exact ⟨_, _, .report hformat hfile⟩
      | some path =>
          cases hwrite : inspection.writeReport (Path.ofText path) session.tree with
          | mk result tree =>
              cases result with
              | ok => exact ⟨_, _, .file hformat hfile hwrite⟩
              | error failure =>
                  by_cases hos : ∃ error, failure = .os error
                  · obtain ⟨error, rfl⟩ := hos
                    exact ⟨_, _, .refused hformat hfile hwrite⟩
                  · exact ⟨_, _, .unwritten hformat hfile hwrite (not_exists.mp hos)⟩

/-- The output that an inspection is asked for can be written. Only a file can refuse it. -/
def Writable (settings : Settings) (inspection : Inspection) (tree : FileTree) : Prop :=
  ∀ path, settings.format = .json → outputFile settings = some path →
    ∃ written, inspection.writeReport (Path.ofText path) tree = (.ok (), written)

/-- What a run that was successful has written: the listing in the way of its presenter, or the report
and a line feed, or nothing but the report in its file; and a remark on a line that was not found. -/
structure Delivers (inquiry : Inquiry) (inspection : Inspection) (ending : Ending) (after : FileTree) :
    Prop where
  listing : inquiry.arguments.settings.format = .listing →
    ∃ kind, presenter inquiry.arguments.settings inquiry.toolchain = .ok kind ∧
      ending.output = presented kind (viewOf inquiry.context inspection)
  report : inquiry.arguments.settings.format = .json →
    outputFile inquiry.arguments.settings = none → ending.output = inspection.report ++ "\n"
  file : ∀ path, inquiry.arguments.settings.format = .json →
    outputFile inquiry.arguments.settings = some path →
    ending.output = [] ∧
      after.readBytes (Path.ofText path).toText = .ok inspection.report.encode
  found : inspection.position ≠ none → ending.errors = []
  notFound : inspection.position = none → ending.errors = notFound inspection.location

variable {host : Host} {environment : Environment} {runner : Runner} {argv : List Text}
  {ending : Ending} {after : Session}

theorem remark_of_found (hfound : inspection.position ≠ none) : remark inspection = [] := by
  rw [remark, if_neg (by simpa using hfound)]

theorem remark_of_notFound (hnone : inspection.position = none) :
    remark inspection = notFound inspection.location := by
  rw [remark, if_pos (by simp [hnone])]

theorem Presents.success_iff
    (hpresents : Presents settings toolchain context inspection session (.ok ending) after) :
    ending.exitCode = .success ↔ Writable settings inspection session.tree := by
  cases hpresents with
  | listing hformat =>
      exact iff_of_true rfl fun path hjson => by rw [hformat] at hjson; contradiction
  | report hformat hfile =>
      exact iff_of_true rfl fun path _ hpath => by rw [hfile] at hpath; contradiction
  | file hformat hfile hwrite =>
      refine iff_of_true rfl fun other _ hother => ?_
      obtain rfl := Option.some.inj (hfile.symm.trans hother)
      exact ⟨_, hwrite⟩
  | refused hformat hfile hwrite =>
      refine iff_of_false (by simp) fun hwritable => ?_
      obtain ⟨written, hother⟩ := hwritable _ hformat hfile
      rw [hwrite] at hother
      cases hother

theorem Presents.not_failed
    (hpresents : Presents settings toolchain context inspection session (.ok ending) after) :
    ending.exitCode ≠ .failed ∧ (ending.exitCode ≠ .success → ending.output = []) := by
  cases hpresents <;> simp

theorem Presents.delivers {inquiry : Inquiry}
    (hpresents : Presents inquiry.arguments.settings inquiry.toolchain inquiry.context inspection
      session (.ok ending) after)
    (hsuccess : ending.exitCode = .success) : Delivers inquiry inspection ending after.tree := by
  cases hpresents with
  | listing hformat hpresenter =>
      exact ⟨fun _ => ⟨_, hpresenter, rfl⟩, by simp [hformat], by simp [hformat], remark_of_found,
        remark_of_notFound⟩
  | report hformat hfile =>
      exact ⟨by simp [hformat], fun _ _ => rfl, by simp [hfile], remark_of_found,
        remark_of_notFound⟩
  | file hformat hfile hwrite =>
      refine ⟨by simp [hformat], by simp [hfile], fun other _ hother => ?_, remark_of_found,
        remark_of_notFound⟩
      obtain rfl := Option.some.inj (hfile.symm.trans hother)
      exact ⟨rfl, Inspection.readBytes_of_writeReport hwrite⟩
  | refused => cases hsuccess

/-- A failure for which the programs or their files are to blame. -/
def OfPrograms : Failure → Prop
  | .compilation _ | .disassembly _ | .os _ => True
  | _ => False

/-- An inspection that has failed leaves the output empty, and the exit code tells who is to blame. -/
theorem conclude_of_error {failure : Failure}
    (hconclude : conclude settings toolchain context (.error failure) session =
      (.ok ending, after)) :
    ending.exitCode ≠ .success ∧ (ending.exitCode = .failed ↔ OfPrograms failure) ∧
      ending.output = [] := by
  cases failure <;> cases hconclude <;> simp [OfPrograms]

theorem prefix_closeLine (text : Text) : text <+: View.closeLine text := by
  unfold View.closeLine
  split
  · exact List.prefix_refl text
  · exact List.prefix_append text _

/-- What the compiler has written stands in the diagnostics as it is. -/
theorem infix_diagnostics (compilation : Compilation) :
    compilation.output <:+: View.diagnostics compilation := by
  obtain ⟨rest, hclosed⟩ := prefix_closeLine compilation.output
  refine ⟨(View.titledRule "compiler output").flatMap Span.render ++ ("\n" : Text),
    rest ++ (View.plainRule.flatMap Span.render ++ ("\n" : Text) ++ compilation.failureMessage ++
      ("\n" : Text)), ?_⟩
  rw [View.diagnostics, ← hclosed]
  simp only [List.append_assoc]

/-- A run that stops is rejected without any output. -/
theorem Stops.rejected (hstops : Stops environment argv session.tree (.ok ending)) :
    ending.exitCode = .rejected ∧ ending.output = [] := by
  cases hstops with
  | @unread stop => cases stop <;> exact ⟨rfl, rfl⟩
  | _ => exact ⟨rfl, rfl⟩

section

variable {inquiry : Inquiry} {between : Session} {failure : Failure}

/-- A run without anything to inspect is rejected. -/
theorem rejected_or_asks (hrun : run host environment runner argv session = (.ok ending, after)) :
    (ending.exitCode = .rejected ∧ ending.output = []) ∨
      ∃ inquiry, Asks environment argv session.tree inquiry := by
  rcases stops_or_asks environment argv session.tree with ⟨result, hstops⟩ | hasks
  · have hresult : (run host environment runner argv session).1 = result := run_of_stops hstops
    rw [hrun] at hresult
    exact .inl (Stops.rejected (hresult ▸ hstops))
  · exact .inr hasks

theorem presents_of_inspected (hasks : Asks environment argv session.tree inquiry)
    (hinspected : inquiry.inspected host runner session = (.ok inspection, between))
    (hrun : run host environment runner argv session = (.ok ending, after)) :
    Presents inquiry.arguments.settings inquiry.toolchain inquiry.context inspection between
      (.ok ending) after := by
  rw [run_of_asks hasks, hinspected] at hrun
  obtain ⟨result, final, hpresents⟩ := exists_presents inquiry.arguments.settings
    inquiry.toolchain inquiry.context inspection between
  obtain ⟨rfl, rfl⟩ := Prod.mk.inj (hpresents.present_eq.symm.trans hrun)
  exact hpresents

theorem conclude_of_inspected (hasks : Asks environment argv session.tree inquiry)
    (hinspected : inquiry.inspected host runner session = (.error failure, between))
    (hrun : run host environment runner argv session = (.ok ending, after)) :
    conclude inquiry.arguments.settings inquiry.toolchain inquiry.context (.error failure) between =
      (.ok ending, after) := by
  rwa [run_of_asks hasks, hinspected] at hrun

theorem exitCode_eq_success_iff
    (hrun : run host environment runner argv session = (.ok ending, after)) :
    ending.exitCode = .success ↔ ∃ inquiry inspection between,
      Asks environment argv session.tree inquiry ∧
      inquiry.inspected host runner session = (.ok inspection, between) ∧
      Writable inquiry.arguments.settings inspection between.tree := by
  constructor
  · intro hsuccess
    rcases rejected_or_asks hrun with ⟨hrejected, _⟩ | ⟨inquiry, hasks⟩
    · rw [hrejected] at hsuccess
      contradiction
    · cases hinspected : inquiry.inspected host runner session with
      | mk result between =>
          cases result with
          | error failure =>
              exact absurd hsuccess
                (conclude_of_error (conclude_of_inspected hasks hinspected hrun)).1
          | ok inspection =>
              have hpresents := presents_of_inspected hasks hinspected hrun
              exact ⟨inquiry, inspection, between, hasks, hinspected,
                hpresents.success_iff.mp hsuccess⟩
  · rintro ⟨inquiry, inspection, between, hasks, hinspected, hwritable⟩
    exact (presents_of_inspected hasks hinspected hrun).success_iff.mpr hwritable

theorem exitCode_eq_failed_iff
    (hrun : run host environment runner argv session = (.ok ending, after)) :
    ending.exitCode = .failed ↔ ∃ inquiry failure between,
      Asks environment argv session.tree inquiry ∧
      inquiry.inspected host runner session = (.error failure, between) ∧ OfPrograms failure := by
  constructor
  · intro hfailed
    rcases rejected_or_asks hrun with ⟨hrejected, _⟩ | ⟨inquiry, hasks⟩
    · rw [hrejected] at hfailed
      contradiction
    · cases hinspected : inquiry.inspected host runner session with
      | mk result between =>
          cases result with
          | ok inspection =>
              exact absurd hfailed (presents_of_inspected hasks hinspected hrun).not_failed.1
          | error failure =>
              have hconclude := conclude_of_inspected hasks hinspected hrun
              exact ⟨inquiry, failure, between, hasks, hinspected,
                (conclude_of_error hconclude).2.1.mp hfailed⟩
  · rintro ⟨inquiry, failure, between, hasks, hinspected, hprograms⟩
    exact (conclude_of_error (conclude_of_inspected hasks hinspected hrun)).2.1.mpr hprograms

theorem output_eq_nil (hrun : run host environment runner argv session = (.ok ending, after))
    (hunsuccessful : ending.exitCode ≠ .success) : ending.output = [] := by
  rcases rejected_or_asks hrun with ⟨_, hnone⟩ | ⟨inquiry, hasks⟩
  · exact hnone
  · cases hinspected : inquiry.inspected host runner session with
    | mk result between =>
        cases result with
        | ok inspection =>
            exact (presents_of_inspected hasks hinspected hrun).not_failed.2 hunsuccessful
        | error failure => exact (conclude_of_error (conclude_of_inspected hasks hinspected hrun)).2.2

end

/-- The exit code tells what has happened: a success, that an inspection came to its end and was written
out; a failure, that the inspection failed for its programs or their files. Without a success the output
is empty, and with one it is what was asked for. What a failed compiler has written stands in the errors
as it is. -/
theorem ending_tells_what_happened
    (hrun : run host environment runner argv session = (.ok ending, after)) :
    (ending.exitCode = .success ↔ ∃ inquiry inspection between,
      Asks environment argv session.tree inquiry ∧
      inquiry.inspected host runner session = (.ok inspection, between) ∧
      Writable inquiry.arguments.settings inspection between.tree) ∧
    (ending.exitCode = .failed ↔ ∃ inquiry failure between,
      Asks environment argv session.tree inquiry ∧
      inquiry.inspected host runner session = (.error failure, between) ∧ OfPrograms failure) ∧
    (ending.exitCode ≠ .success → ending.output = []) ∧
    (∀ {inquiry inspection between}, Asks environment argv session.tree inquiry →
      inquiry.inspected host runner session = (.ok inspection, between) →
      ending.exitCode = .success → Delivers inquiry inspection ending after.tree) ∧
    (∀ {inquiry compilation between}, Asks environment argv session.tree inquiry →
      inquiry.inspected host runner session = (.error (.compilation compilation), between) →
      compilation.output <:+: ending.errors) := by
  refine ⟨exitCode_eq_success_iff hrun, exitCode_eq_failed_iff hrun, output_eq_nil hrun, ?_, ?_⟩
  · intro inquiry inspection between hasks hinspected hsuccess
    exact (presents_of_inspected hasks hinspected hrun).delivers hsuccess
  · intro inquiry compilation between hasks hinspected
    have hconclude := conclude_of_inspected hasks hinspected hrun
    cases hconclude
    exact infix_diagnostics compilation

/-- A machine without any variables set. -/
def bareHost : Host :=
  ⟨[], .ok "/tmp", .named "tester", "Linux"⟩

/-- A tree with a source file in the working directory. -/
def sourceTree : FileTree :=
  ⟨["w"], [(["f.c", "w"], .file [] false), (["w"], .directory)]⟩

/-- The words that ask for the first line of the source file. -/
def request : List Text :=
  ["f.c", "--object-path", "x.o"]

/-- A compiler that leaves an object, and after it a disassembler that shows a listing. -/
def showing (listing : Text) : Runner :=
  ⟨false, fun position call =>
    if position = 0 then (.ok ⟨0, [], []⟩, call.tree.insert ["x.o", "w"] (.file [] false))
    else (.ok ⟨0, listing, []⟩, call.tree)⟩

theorem ending_tells_what_happened_of_shown_line :
    ∃ after inquiry inspection between,
      run bareHost (fun _ => none) (showing "f.c:1\n") request (.start sourceTree .warning) =
        (.ok { exitCode := .success, output := "=> f.c:1\n" }, after) ∧
      inquiry.inspected bareHost (showing "f.c:1\n") (.start sourceTree .warning) =
        (.ok inspection, between) ∧
      Delivers inquiry inspection { exitCode := .success, output := "=> f.c:1\n" } after.tree := by
  obtain ⟨after, hrun⟩ : ∃ after, run bareHost (fun _ => none) (showing "f.c:1\n") request
      (.start sourceTree .warning) =
        (.ok { exitCode := .success, output := "=> f.c:1\n" }, after) := ⟨_, rfl⟩
  obtain ⟨hsuccess, _, _, hdelivers, _⟩ := ending_tells_what_happened hrun
  obtain ⟨inquiry, inspection, between, hasks, hinspected, _⟩ := hsuccess.mp rfl
  exact ⟨after, inquiry, inspection, between, hrun, hinspected, hdelivers hasks hinspected rfl⟩

end CommandLine

end AsmLens
