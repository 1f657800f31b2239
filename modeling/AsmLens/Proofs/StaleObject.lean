import AsmLens.Proofs.FileTree.Resolve
import AsmLens.Proofs.Protocol

/-!
# Stale objects

What an earlier run has left at the place of the object is removed before the compiler is called, so the
compiler finds the place vacant, and a run goes as if nothing had been left there.
-/

namespace AsmLens

namespace Disassembly

theorem grows_run (runner : Runner) (toolchain : Toolchain) (system : Text) (object : Path) :
    (run runner toolchain system object).Grows := by
  refine (Action.grows_ofExcept _).bind fun argv => ?_
  refine (Action.grows_catchOs_call runner argv false).bind fun answer => ?_
  cases answer with
  | error error => exact (Action.grows_log _ _).bind fun _ => Action.grows_pure _
  | ok reply =>
      simp only
      split
      · exact (Action.grows_log _ _).bind fun _ => Action.grows_pure _
      · exact (Action.grows_log _ _).bind fun _ => Action.grows_pure _

end Disassembly

namespace Compilation

theorem grows_isThere (object : Path) : (run.isThere object).Grows :=
  Action.grows_get.bind fun _ => Action.grows_ofExcept _

/-- The compiler's call is the first one that a compilation adds. -/
theorem prefix_calls_run {commandLine : Text} {argv : List Text}
    (hargv : ShellWords.split commandLine = .ok argv) (runner : Runner) (object : Path)
    (session : Session) :
    session.calls ++ [⟨argv, true, session.tree⟩] <+:
      (run runner commandLine object session).2.calls := by
  unfold run
  rw [Step.bind_of_ok (Action.ofExcept_split hargv session), ← Action.calls_catchOs_call runner]
  refine Action.prefix_calls_bind (fun answer => ?_) session
  cases answer with
  | error error =>
      exact (Action.grows_log _ _).bind fun _ =>
        (grows_isThere object).bind fun _ => Action.grows_pure _
  | ok reply =>
      exact (grows_isThere object).bind fun _ =>
        (Action.grows_log _ _).bind fun _ => Action.grows_pure _

/-- A command line that cannot be cut into words is not run. -/
theorem run_of_split_error {commandLine : Text} {error : ShellWords.SplitError}
    (herror : ShellWords.split commandLine = .error error) (runner : Runner) (object : Path)
    (session : Session) :
    run runner commandLine object session = (.error (.split error), session) :=
  Step.bind_of_error (Action.ofExcept_split herror session)

end Compilation

namespace Inspection

variable {runner : Runner} {system : Text} {toolchain : Toolchain} {location : SourceLocation}
  {object input : Path} {session : Session} {language : Language}

theorem grows_afterCompilation (runner : Runner) (system : Text) (toolchain : Toolchain)
    (location : SourceLocation) (object : Path) (command : CompileCommand)
    (compilation : Compilation) :
    (afterCompilation runner system toolchain location object command compilation).Grows := by
  unfold afterCompilation
  split
  · refine (Disassembly.grows_run runner toolchain system object).bind fun disassembly => ?_
    unfold afterDisassembly
    split
    · refine Action.Grows.bind ?_ fun _ => Action.grows_pure _
      unfold ListingMatch.findLogged
      simp only
      split
      · exact (Action.grows_log _ _).bind fun _ => Action.grows_pure _
      · exact (Action.grows_log _ _).bind fun _ => Action.grows_pure _
    · exact Action.grows_throw _
  · exact Action.grows_throw _

/-- The first call of a run is the compiler's, on the tree in which the place of the object has been
prepared. -/
theorem exists_of_first_call (hlanguage : Language.ofFile? location.path.toText = some language)
    (hinput : session.tree.resolve location.path = .ok input) {call : Call}
    (hcall : (run runner system toolchain location object session).2.calls[session.calls.length]? =
      some call) :
    ∃ argv prepared, ObjectFile.prepare object session.tree = (.ok (), prepared) ∧
      ShellWords.split (CompileCommand.lineOf toolchain language input.toText object.toText) =
        .ok argv ∧
      call = ⟨argv, true, prepared⟩ := by
  cases hprepare : ObjectFile.prepare object session.tree with
  | mk result prepared =>
      cases result with
      | error failure =>
          rw [run_of_unprepared hlanguage hinput hprepare, calls_preparedSession,
            List.getElem?_eq_none (Nat.le_refl _)] at hcall
          contradiction
      | ok =>
          rw [run_of_prepared hlanguage hinput hprepare, afterPreparation] at hcall
          cases hargv : ShellWords.split
              (CompileCommand.lineOf toolchain language input.toText object.toText) with
          | error error =>
              rw [Step.bind_of_error (Compilation.run_of_split_error hargv runner object _),
                calls_preparedSession, List.getElem?_eq_none (Nat.le_refl _)] at hcall
              contradiction
          | ok argv =>
              refine ⟨argv, prepared, rfl, rfl, ?_⟩
              have hcompiled := Compilation.prefix_calls_run hargv runner object
                (preparedSession toolchain object input session language prepared)
              rw [calls_preparedSession, tree_preparedSession] at hcompiled
              obtain ⟨more, hmore⟩ := hcompiled.trans (Action.prefix_calls_bind
                (grows_afterCompilation runner system toolchain location object
                  (.make toolchain language input.toText object.toText)) _)
              rw [← hmore, List.append_assoc, List.getElem?_append_right (Nat.le_refl _),
                Nat.sub_self] at hcall
              exact (Option.some.inj hcall).symm

/-- A compiler that leaves no object is to blame, whatever was at the object's place before. -/
theorem run_eq_compilation_of_first_call (hrunner : runner.RaisesOs)
    (hlanguage : Language.ofFile? location.path.toText = some language)
    (hinput : session.tree.resolve location.path = .ok input) {call : Call}
    (hcall : (run runner system toolchain location object session).2.calls[session.calls.length]? =
      some call)
    (hnothing : (runner.answer session.calls.length call).2.isThere object = .ok false) :
    ∃ compilation, (run runner system toolchain location object session).1 =
      .error (.compilation compilation) := by
  obtain ⟨argv, prepared, hprepare, hargv, rfl⟩ := exists_of_first_call hlanguage hinput hcall
  obtain ⟨answer, hanswer⟩ := hrunner session.calls.length ⟨argv, true, prepared⟩
  have hcompiler : CompilerCalled runner toolchain location object input session language prepared
      argv answer _ false :=
    ⟨hlanguage, hprepare, hargv, Prod.ext hanswer rfl, hnothing⟩
  have hcourse : Course runner system toolchain location object input session _ _ _ :=
    .notCompiled hcompiler (.inr rfl)
  obtain ⟨final, hrun, _⟩ := run_of_course hinput hcourse
  rw [hrun]
  exact ⟨_, rfl⟩

theorem preparedSession_of_tree (toolchain : Toolchain) (object input : Path) (session : Session)
    (language : Language) (tree other : FileTree) :
    preparedSession toolchain object input { session with tree := other } language tree =
      preparedSession toolchain object input session language tree := by
  unfold preparedSession Session.record
  split <;> rfl

/-- A run does not tell a tree with a stale object from the same tree without it. -/
theorem run_eq_of_stale {stale : FileTree} {place : Location} {cleanInput : Path}
    (hlanguage : Language.ofFile? location.path.toText = some language) (hnormal : object.Normal)
    (hstale : ObjectFile.Stale stale object place) (hapart : ObjectFile.Apart stale object)
    (hinput : stale.resolve location.path = .ok input)
    (hclean : (stale.erase place).resolve location.path = .ok cleanInput)
    (havoids : ¬ stale.ResolvesThrough location.path place) :
    run runner system toolchain location object { session with tree := stale } =
      run runner system toolchain location object { session with tree := stale.erase place } := by
  have hnotLink : ∀ target, (stale.erase place).get? place ≠ some (.link target) := by
    rw [hstale.get?_erase]
    simp
  obtain rfl : cleanInput = input :=
    (FileTree.agreeOff_erase stale place).resolve_eq hnotLink havoids hinput hclean
  obtain ⟨hprepare, hprepareClean⟩ :=
    ObjectFile.prepare_stale hnormal hapart hstale
  calc
    run runner system toolchain location object { session with tree := stale } = _ :=
      run_of_prepared hlanguage hinput hprepare
    _ = afterPreparation runner system toolchain location object cleanInput language
        (preparedSession toolchain object cleanInput session language (stale.erase place)) := by
      rw [preparedSession_of_tree toolchain object cleanInput session language _ stale]
    _ = afterPreparation runner system toolchain location object cleanInput language
        (preparedSession toolchain object cleanInput { session with tree := stale.erase place }
          language (stale.erase place)) := by
      rw [preparedSession_of_tree toolchain object cleanInput session language _ (stale.erase place)]
    _ = run runner system toolchain location object { session with tree := stale.erase place } :=
      (run_of_prepared hlanguage hclean hprepareClean).symm

/-- The compiler finds the place of the object vacant, in a directory; if it leaves nothing there, it is
to blame; and the run is the same as if no file or link had been at the place before. -/
theorem stale_object_has_no_influence
    (hlanguage : Language.ofFile? location.path.toText = some language) (objectText : Text) :
    (∀ {session : Session} {input : Path} {call : Call},
      session.tree.resolve location.path = .ok input →
      ObjectFile.Apart session.tree (Path.ofText objectText) →
      (run runner system toolchain location (Path.ofText objectText)
        session).2.calls[session.calls.length]? = some call →
      call.tree.Vacant (Path.ofText objectText) ∧
        call.tree.isDirectory (Path.ofText objectText).parent = .ok true) ∧
    (∀ {session : Session} {input : Path} {call : Call}, runner.RaisesOs →
      session.tree.resolve location.path = .ok input →
      (run runner system toolchain location (Path.ofText objectText)
        session).2.calls[session.calls.length]? = some call →
      ((runner.answer session.calls.length call).2.Vacant (Path.ofText objectText) ∨
        (runner.answer session.calls.length call).2.isThere (Path.ofText objectText) = .ok false) →
      ∃ compilation, (run runner system toolchain location (Path.ofText objectText) session).1 =
        .error (.compilation compilation)) ∧
    (∀ {session : Session} {stale : FileTree} {place : Location} {input cleanInput : Path},
      ObjectFile.Stale stale (Path.ofText objectText) place →
      ObjectFile.Apart stale (Path.ofText objectText) →
      stale.resolve location.path = .ok input →
      (stale.erase place).resolve location.path = .ok cleanInput →
      ¬ stale.ResolvesThrough location.path place →
      run runner system toolchain location (Path.ofText objectText) { session with tree := stale } =
        run runner system toolchain location (Path.ofText objectText)
          { session with tree := stale.erase place }) := by
  have hnormal := Path.normal_ofText objectText
  refine ⟨?_, ?_, ?_⟩
  · intro session input call hinput hapart hcall
    obtain ⟨argv, prepared, hprepare, _, rfl⟩ := exists_of_first_call hlanguage hinput hcall
    exact ObjectFile.vacant_of_prepare hnormal hapart hprepare
  · intro session input call hrunner hinput hcall hnothing
    refine run_eq_compilation_of_first_call hrunner hlanguage hinput hcall ?_
    rcases hnothing with hvacant | habsent
    · exact FileTree.isThere_of_vacant hvacant
    · exact habsent
  · intro session stale place input cleanInput hstale hapart hinput hclean havoids
    exact run_eq_of_stale hlanguage hnormal hstale hapart hinput hclean havoids

/-- A tree where an earlier run has left a link at the place of the object. -/
def linkedTree : FileTree :=
  ⟨["w"], [(["x.o", "w"], .link "f.c"), (["f.c", "w"], .file [] false), (["w"], .directory)]⟩

theorem not_leadsThrough_linkedTree (place : Location) :
    ¬ linkedTree.LeadsThrough (Path.ofText "x.o").parent place := by
  rintro ⟨route, left, there, hplace, hroute⟩
  have hsteps : FileTree.steps (Path.ofText "x.o").parent.toText = [("." : String).toList] := rfl
  rw [hsteps] at hroute
  cases hroute with
  | stay _ _ hrest =>
      cases hrest
      exact absurd hplace List.not_mem_nil
  | enter _ hname => exact hname.1 rfl
  | link _ hname => exact hname.1 rfl

theorem stale_link_has_no_influence :
    linkedTree.get? ["x.o", "w"] = some (.link "f.c") ∧
    run .idle "Linux" {} ⟨Path.ofText "f.c", 1, "int x;"⟩ (Path.ofText "x.o")
        (.start linkedTree .info) =
      run .idle "Linux" {} ⟨Path.ofText "f.c", 1, "int x;"⟩ (Path.ofText "x.o")
        (.start (linkedTree.erase ["x.o", "w"]) .info) ∧
    (linkedTree.erase ["x.o", "w"]).Vacant (Path.ofText "x.o") ∧
    ∃ compilation, (run .idle "Linux" {} ⟨Path.ofText "f.c", 1, "int x;"⟩ (Path.ofText "x.o")
      (.start linkedTree .info)).1 = .error (.compilation compilation) := by
  have hlanguage : Language.ofFile? (Path.ofText "f.c").toText = some .c := rfl
  have hparent : linkedTree.isDirectory (Path.ofText "x.o").parent = .ok true := rfl
  have hapart : ObjectFile.Apart linkedTree (Path.ofText "x.o") := by
    intro made place hmade _
    rw [TreeAction.makeDirectories_of_isDirectory hparent] at hmade
    obtain rfl : linkedTree = made := congrArg Prod.snd hmade
    exact not_leadsThrough_linkedTree place
  have hstale : ObjectFile.Stale linkedTree (Path.ofText "x.o") ["x.o", "w"] :=
    ⟨⟨by decide, rfl⟩, ⟨.link "f.c", rfl, by simp⟩, hparent⟩
  have hinput : linkedTree.resolve (Path.ofText "f.c") = .ok (Path.ofText "/w/f.c") := rfl
  have hclean : (linkedTree.erase ["x.o", "w"]).resolve (Path.ofText "f.c") =
      .ok (Path.ofText "/w/f.c") := rfl
  have havoids : ¬ linkedTree.ResolvesThrough (Path.ofText "f.c") ["x.o", "w"] := by
    rintro ⟨link, hlink, _⟩
    have hnone : linkedTree.linksOf (Path.ofText "f.c").toText = [] := rfl
    rw [hnone] at hlink
    exact absurd hlink List.not_mem_nil
  obtain ⟨hvacant, hblamed, hsame⟩ := @stale_object_has_no_influence .idle "Linux" {}
    ⟨Path.ofText "f.c", 1, "int x;"⟩ .c hlanguage "x.o"
  have hcall : (run .idle "Linux" {} ⟨Path.ofText "f.c", 1, "int x;"⟩ (Path.ofText "x.o")
      (.start linkedTree .info)).2.calls[0]? =
        some ⟨["cc", "-march=native", "-g", "-c", "-o", "x.o", "/w/f.c"], true,
          linkedTree.erase ["x.o", "w"]⟩ := rfl
  refine ⟨rfl, ?_, ?_, ?_⟩
  · exact @hsame (.start linkedTree .info) linkedTree ["x.o", "w"] _ _ hstale hapart hinput hclean
      havoids
  · exact (@hvacant (.start linkedTree .info) _ _ hinput hapart hcall).1
  · exact @hblamed (.start linkedTree .info) _ _ (fun _ _ => ⟨.ok ⟨0, [], []⟩, rfl⟩) hinput hcall
      (.inr rfl)

end Inspection

end AsmLens
