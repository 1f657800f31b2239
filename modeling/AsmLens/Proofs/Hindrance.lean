import AsmLens.Proofs.StaleObject

/-!
# What can hinder an inspection

An inspection that takes none of its courses was hindered: its source file could not be resolved, one of
its command lines could not be cut into words, or it could not be said whether the object file is there.
-/

namespace AsmLens

theorem Compilation.run_of_unseen {runner : Runner} {commandLine : Text} {object : Path}
    {session : Session} {argv : List Text} {answer : Except OsError Reply} {tree : FileTree}
    {error : OsError} (hargv : ShellWords.split commandLine = .ok argv)
    (hanswer : runner.answer session.calls.length ⟨argv, true, session.tree⟩ =
      (answer.mapError StartError.os, tree))
    (hthere : tree.isThere object = .error error) :
    ∃ final, run runner commandLine object session = (.error (.os error), final) := by
  have hlook : ∀ {looking : Session}, looking.tree = tree →
      run.isThere object looking = (.error (.os error), looking) := by
    intro looking htree
    unfold run.isThere
    rw [Step.bind_of_ok (Action.get_apply looking), htree, hthere]
    rfl
  unfold run
  rw [Step.bind_of_ok (Action.ofExcept_split hargv session),
    Step.bind_of_ok (Action.catchOs_call_apply hanswer)]
  cases answer with
  | error failure =>
      simp only
      rw [Step.bind_of_ok (Action.log_apply ..), Step.bind_of_error (hlook (by simp))]
      exact ⟨_, rfl⟩
  | ok reply =>
      simp only
      rw [Step.bind_of_error (hlook (by simp))]
      exact ⟨_, rfl⟩

theorem Disassembly.run_of_split_error {toolchain : Toolchain} {system : Text} {object : Path}
    {error : ShellWords.SplitError}
    (herror : ShellWords.split (commandLineOf object (binaryOf toolchain system)) = .error error)
    (runner : Runner) (session : Session) :
    run runner toolchain system object session = (.error (.split error), session) := by
  unfold run
  exact Step.bind_of_error (Action.ofExcept_split herror session)

/-- A path is not resolved for a NUL byte, for links that lead back to themselves, or for too many links
inside each other. -/
theorem FileTree.resolve_eq_error {tree : FileTree} {path : Path} {failure : Failure}
    (hresolve : tree.resolve path = .error failure) :
    failure = .nulByte ∨ failure = .nestedTooDeep .links ∨ ∃ text, failure = .linkLoop text := by
  rw [resolve] at hresolve
  cases hfollow : tree.follow path.toText with
  | error other =>
      simp only [hfollow, bind, Except.bind] at hresolve
      obtain rfl := Except.error.inj hresolve
      rw [follow] at hfollow
      split at hfollow
      · contradiction
      · exact .inl (Except.error.inj hfollow).symm
      · contradiction
      · exact .inr (.inl (Except.error.inj hfollow).symm)
  | ok followed =>
      simp only [hfollow, bind, Except.bind] at hresolve
      split at hresolve
      · exact .inl (Except.error.inj hresolve).symm
      · split at hresolve
        · exact .inr (.inr ⟨_, (Except.error.inj hresolve).symm⟩)
        · contradiction

namespace Inspection

variable (runner : Runner) (system : Text) (toolchain : Toolchain) (location : SourceLocation)
  (object input : Path) (session : Session)

/-- What keeps an inspection from taking a course, and the failure it then ends with. -/
inductive Hindrance : Failure → Prop
  | unresolved {language : Language} {failure : Failure}
      (hlanguage : Language.ofFile? location.path.toText = some language)
      (hresolve : session.tree.resolve location.path = .error failure) : Hindrance failure
  | unsplit {language : Language} {input : Path} {prepared : FileTree}
      {error : ShellWords.SplitError}
      (hlanguage : Language.ofFile? location.path.toText = some language)
      (hinput : session.tree.resolve location.path = .ok input)
      (hprepare : ObjectFile.prepare object session.tree = (.ok (), prepared))
      (hsplit : ShellWords.split (CompileCommand.lineOf toolchain language input.toText
        object.toText) = .error error) : Hindrance (.split error)
  | unseen {language : Language} {input : Path} {prepared : FileTree} {argv : List Text}
      {error : OsError} (hlanguage : Language.ofFile? location.path.toText = some language)
      (hinput : session.tree.resolve location.path = .ok input)
      (hprepare : ObjectFile.prepare object session.tree = (.ok (), prepared))
      (hsplit : ShellWords.split (CompileCommand.lineOf toolchain language input.toText
        object.toText) = .ok argv)
      (hlook : (runner.answer session.calls.length ⟨argv, true, prepared⟩).2.isThere object =
        .error error) : Hindrance (.os error)
  | unsplitAgain {language : Language} {input : Path} {prepared compiled : FileTree}
      {argv : List Text} {answer : Except OsError Reply} {error : ShellWords.SplitError}
      (hinput : session.tree.resolve location.path = .ok input)
      (hcompiler : CompilerCalled runner toolchain location object input session language prepared
        argv answer compiled true)
      (hcompiled : ¬ Runner.Failed answer)
      (hsplit : ShellWords.split (Disassembly.commandLineOf object
        (Disassembly.binaryOf toolchain system)) = .error error) : Hindrance (.split error)

/-- Whatever the runner is called for in an inspection, it fails with errors of the operating system only. -/
structure RaisesOsOnly : Prop where
  compiler : ∀ language input prepared, session.tree.resolve location.path = .ok input →
    ObjectFile.prepare object session.tree = (.ok (), prepared) →
    runner.RaisesOsFor (CompileCommand.lineOf toolchain language input.toText object.toText)
  disassembler : ∀ prepared, ObjectFile.prepare object session.tree = (.ok (), prepared) →
    runner.RaisesOsFor (Disassembly.commandLineOf object (Disassembly.binaryOf toolchain system))

variable {runner system toolchain location object input session}

theorem Hindrance.cause {failure : Failure}
    (hhindrance : Hindrance runner system toolchain location object session failure) :
    failure = .nulByte ∨ failure = .nestedTooDeep .links ∨ (∃ text, failure = .linkLoop text) ∨
      (∃ error, failure = .split error) ∨ ∃ error, failure = .os error := by
  cases hhindrance with
  | unresolved _ hresolve =>
      rcases FileTree.resolve_eq_error hresolve with hnul | hnested | hloop
      · exact .inl hnul
      · exact .inr (.inl hnested)
      · exact .inr (.inr (.inl hloop))
  | unsplit => exact .inr (.inr (.inr (.inl ⟨_, rfl⟩)))
  | unseen => exact .inr (.inr (.inr (.inr ⟨_, rfl⟩)))
  | unsplitAgain => exact .inr (.inr (.inr (.inl ⟨_, rfl⟩)))

/-- A hindrance says how the inspection ends. -/
theorem run_of_hindrance
    (hrunner : RaisesOsOnly runner system toolchain location object session) {failure : Failure}
    (hhindrance : Hindrance runner system toolchain location object session failure) :
    ∃ final, run runner system toolchain location object session = (.error failure, final) := by
  cases hhindrance with
  | unresolved hlanguage hresolve => exact ⟨session, run_of_unresolved hlanguage hresolve⟩
  | unsplit hlanguage hinput hprepare hsplit =>
      rw [run_of_prepared hlanguage hinput hprepare, afterPreparation,
        Step.bind_of_error (Compilation.run_of_split_error hsplit runner object _)]
      exact ⟨_, rfl⟩
  | @unseen language input prepared argv error hlanguage hinput hprepare hsplit hlook =>
      obtain ⟨answer, hanswer⟩ := hrunner.compiler language input prepared hinput hprepare argv hsplit
        session.calls.length true prepared
      obtain ⟨final, hrun⟩ := @Compilation.run_of_unseen runner _ object
        (preparedSession toolchain object input session language prepared) argv answer _ error hsplit
        (Prod.ext (by simpa using hanswer) rfl) (by simpa using hlook)
      rw [run_of_prepared hlanguage hinput hprepare, afterPreparation, Step.bind_of_error hrun]
      exact ⟨_, rfl⟩
  | @unsplitAgain language input prepared compiled argv answer error hinput hcompiler hcompiled hsplit =>
      obtain ⟨done, hrun, _⟩ := @run_of_compilerCalled runner system toolchain location object input
        session language prepared compiled argv answer true hinput hcompiler
      rw [hrun, afterCompilation, if_pos (succeeded_compilationOf hcompiled language argv),
        Step.bind_of_error (Disassembly.run_of_split_error hsplit runner done)]
      exact ⟨_, rfl⟩

theorem course_or_hindrance_of_compilerCalled
    (hrunner : RaisesOsOnly runner system toolchain location object session)
    {language : Language} {prepared compiled : FileTree} {argv : List Text}
    {answer : Except OsError Reply} {there : Bool}
    (hinput : session.tree.resolve location.path = .ok input)
    (hcompiler : CompilerCalled runner toolchain location object input session language prepared
      argv answer compiled there) :
    (∃ input result made tree, session.tree.resolve location.path = .ok input ∧
      Course runner system toolchain location object input session result made tree) ∨
    ∃ failure, Hindrance runner system toolchain location object session failure := by
  by_cases hfailed : Runner.Failed answer ∨ there = false
  · exact .inl ⟨input, _, _, _, hinput, .notCompiled hcompiler hfailed⟩
  · obtain ⟨hcompiled, hobject⟩ := not_or.mp hfailed
    obtain rfl : there = true := by simpa using hobject
    cases hwords : ShellWords.split
        (Disassembly.commandLineOf object (Disassembly.binaryOf toolchain system)) with
    | error error => exact .inr ⟨_, .unsplitAgain hinput hcompiler hcompiled hwords⟩
    | ok words =>
        obtain ⟨result, made, tree, hcourse⟩ :=
          exists_course_of_words (hrunner.disassembler prepared hcompiler.prepares) hcompiler hcompiled
            hwords
        exact .inl ⟨input, result, made, tree, hinput, hcourse⟩

/-- An inspection of a file in some language takes a course, or it is hindered. -/
theorem exists_course_or_hindrance
    (hrunner : RaisesOsOnly runner system toolchain location object session) {language : Language}
    (hlanguage : Language.ofFile? location.path.toText = some language) :
    (∃ input result made tree, session.tree.resolve location.path = .ok input ∧
      Course runner system toolchain location object input session result made tree) ∨
    ∃ failure, Hindrance runner system toolchain location object session failure := by
  cases hinput : session.tree.resolve location.path with
  | error failure => exact .inr ⟨failure, .unresolved hlanguage hinput⟩
  | ok input =>
      cases hprepare : ObjectFile.prepare object session.tree with
      | mk prepareResult prepared =>
          cases prepareResult with
          | error failure => exact .inl ⟨input, _, _, _, rfl, .unprepared hlanguage hprepare⟩
          | ok =>
              cases hargv : ShellWords.split
                  (CompileCommand.lineOf toolchain language input.toText object.toText) with
              | error error => exact .inr ⟨_, .unsplit hlanguage hinput hprepare hargv⟩
              | ok argv =>
                  cases hthere : (runner.answer session.calls.length
                      ⟨argv, true, prepared⟩).2.isThere object with
                  | error error => exact .inr ⟨_, .unseen hlanguage hinput hprepare hargv hthere⟩
                  | ok there =>
                      obtain ⟨answer, compiled, hcompiler⟩ :=
                        exists_compilerCalled (hrunner.compiler language input prepared hinput hprepare)
                          hlanguage hprepare hargv hthere
                      have hcourse :=
                        course_or_hindrance_of_compilerCalled hrunner hinput hcompiler
                      rwa [hinput] at hcourse

end Inspection

end AsmLens
