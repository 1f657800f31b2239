import AsmLens.Proofs.FileTree.Preparing
import AsmLens.Proofs.Session

/-!
# The protocol of an inspection

An inspection calls its runner at most twice, and the runner may do to the file tree whatever it likes.
The courses below are all the ways in which an inspection can go; each says which calls are made on
which trees, what comes of them, and what is left of the tree.
-/

namespace AsmLens

/-- A runner that fails with errors of the operating system only. -/
def Runner.RaisesOs (runner : Runner) : Prop :=
  ∀ position call, ∃ answer : Except OsError Reply,
    (runner.answer position call).1 = answer.mapError StartError.os

/-- A runner that fails with errors of the operating system only when it gets the words of some line. -/
def Runner.RaisesOsFor (runner : Runner) (commandLine : Text) : Prop :=
  ∀ argv, ShellWords.split commandLine = .ok argv → ∀ position mergeErrors tree,
    ∃ answer : Except OsError Reply,
      (runner.answer position ⟨argv, mergeErrors, tree⟩).1 = answer.mapError StartError.os

theorem Runner.RaisesOs.raisesOsFor {runner : Runner} (hrunner : runner.RaisesOs) (commandLine : Text) :
    runner.RaisesOsFor commandLine :=
  fun argv _ position mergeErrors tree => hrunner position ⟨argv, mergeErrors, tree⟩

/-- A runner whose programs end well and do nothing. -/
def Runner.idle : Runner :=
  ⟨false, fun _ call => (.ok ⟨0, [], []⟩, call.tree)⟩

/-- The program was not started, or it ended with another exit code than zero. -/
def Runner.Failed : Except OsError Reply → Prop
  | .error _ => True
  | .ok reply => reply.exitCode ≠ 0

namespace Compilation

/-- What is known of a compilation from the answer of the runner and a look at the object file. -/
def ofAnswer (argv : List Text) (commandLine : Text) (objectExists : Bool) :
    Except OsError Reply → Compilation
  | .error error =>
      ⟨notStartedCode, argv.headD commandLine ++ ": " ++ error.message ++ "\n", objectExists⟩
  | .ok reply => ⟨reply.exitCode, reply.output, objectExists⟩

theorem succeeded_ofAnswer_iff {argv : List Text} {commandLine : Text} {objectExists : Bool}
    {answer : Except OsError Reply} :
    (ofAnswer argv commandLine objectExists answer).succeeded = true ↔
      ¬ (Runner.Failed answer ∨ objectExists = false) := by
  cases answer with
  | error error => simp [ofAnswer, succeeded, notStartedCode, Runner.Failed]
  | ok reply =>
      cases objectExists with
      | false => simp [ofAnswer, succeeded]
      | true =>
          simp only [ofAnswer, succeeded, Runner.Failed, Bool.and_true, Bool.true_eq_false, or_false,
            Decidable.not_not]
          exact decide_eq_true_iff

theorem run_isThere_apply {object : Path} {session : Session} {there : Bool}
    (hthere : session.tree.isThere object = .ok there) :
    run.isThere object session = (.ok there, session) := by
  unfold run.isThere
  rw [Step.bind_of_ok (Action.get_apply session), hthere]
  rfl

/-- The compiler is called once, with its error output in its output; whether its object file is there
is asked of the tree that it leaves. -/
theorem run_apply {runner : Runner} {commandLine : Text} {object : Path} {session : Session}
    {argv : List Text} {answer : Except OsError Reply} {tree : FileTree} {there : Bool}
    (hargv : ShellWords.split commandLine = .ok argv)
    (hanswer : runner.answer session.calls.length ⟨argv, true, session.tree⟩ =
      (answer.mapError StartError.os, tree))
    (hthere : tree.isThere object = .ok there) :
    ∃ final : Session,
      run runner commandLine object session =
        (.ok (ofAnswer argv commandLine there answer), final) ∧
      final.tree = tree ∧ final.calls = session.calls ++ [⟨argv, true, session.tree⟩] := by
  unfold run
  rw [Step.bind_of_ok (Action.ofExcept_split hargv session),
    Step.bind_of_ok (Action.catchOs_call_apply hanswer)]
  cases answer with
  | error error =>
      simp only
      rw [Step.bind_of_ok (Action.log_apply ..), Step.bind_of_ok (run_isThere_apply (by simpa))]
      exact ⟨_, rfl, by simp, by simp⟩
  | ok reply =>
      simp only
      rw [Step.bind_of_ok (run_isThere_apply (by simpa)), Step.bind_of_ok (Action.log_apply ..)]
      exact ⟨_, rfl, by simp, by simp⟩

end Compilation

namespace Disassembly

/-- What is known of a disassembly from the answer of the runner. -/
def ofAnswer (binary commandLine : Text) : Except OsError Reply → Disassembly
  | .error error =>
      ⟨commandLine, notStartedCode, [], binary ++ ": " ++ error.message ++ "\n"⟩
  | .ok reply => ⟨commandLine, reply.exitCode, reply.output, reply.errorOutput⟩

theorem succeeded_ofAnswer_iff {binary commandLine : Text} {answer : Except OsError Reply} :
    (ofAnswer binary commandLine answer).succeeded = true ↔ ¬ Runner.Failed answer := by
  cases answer with
  | error error => simp [ofAnswer, succeeded, notStartedCode, Runner.Failed]
  | ok reply =>
      simp only [ofAnswer, succeeded, Runner.Failed, Decidable.not_not]
      exact decide_eq_true_iff

/-- The disassembler is called once, with its error output apart. -/
theorem run_apply {runner : Runner} {toolchain : Toolchain} {system : Text} {object : Path}
    {session : Session} {argv : List Text} {answer : Except OsError Reply} {tree : FileTree}
    (hargv : ShellWords.split (commandLineOf object (binaryOf toolchain system)) = .ok argv)
    (hanswer : runner.answer session.calls.length ⟨argv, false, session.tree⟩ =
      (answer.mapError StartError.os, tree)) :
    ∃ final : Session,
      run runner toolchain system object session =
        (.ok (ofAnswer (binaryOf toolchain system)
          (commandLineOf object (binaryOf toolchain system)) answer), final) ∧
      final.tree = tree ∧ final.calls = session.calls ++ [⟨argv, false, session.tree⟩] := by
  unfold run
  simp only
  rw [Step.bind_of_ok (Action.ofExcept_split hargv session),
    Step.bind_of_ok (Action.catchOs_call_apply hanswer)]
  cases answer with
  | error error =>
      simp only
      rw [Step.bind_of_ok (Action.log_apply ..)]
      exact ⟨_, rfl, by simp, by simp⟩
  | ok reply =>
      simp only
      split
      · rw [Step.bind_of_ok (Action.log_apply ..)]
        exact ⟨_, rfl, by simp, by simp⟩
      · rw [Step.bind_of_ok (Action.log_apply ..)]
        exact ⟨_, rfl, by simp, by simp⟩

end Disassembly

theorem Language.ofFileLogged_apply (path : Text) (session : Session) :
    ∃ final : Session, ofFileLogged path session = (.ok (ofFile? path), final) ∧
      final.tree = session.tree ∧ final.calls = session.calls := by
  unfold ofFileLogged
  cases hlanguage : ofFile? path with
  | none =>
      simp only [Option.isNone_none, if_true]
      rw [Step.bind_of_ok (Action.log_apply ..)]
      exact ⟨_, rfl, by simp, by simp⟩
  | some language => exact ⟨session, rfl, rfl, rfl⟩

theorem Language.ofFileLogged_of_some {path : Text} {language : Language}
    (hlanguage : ofFile? path = some language) (session : Session) :
    ofFileLogged path session = (.ok (some language), session) := by
  unfold ofFileLogged
  rw [hlanguage]
  rfl

theorem ListingMatch.findLogged_apply (listing sourceLine marker : Text) (session : Session) :
    ∃ final : Session,
      findLogged listing sourceLine marker session =
        (.ok (find? listing sourceLine marker), final) ∧
      final.tree = session.tree ∧ final.calls = session.calls := by
  unfold findLogged
  cases hfound : find? listing sourceLine marker with
  | none =>
      simp only
      rw [Step.bind_of_ok (Action.log_apply ..)]
      exact ⟨_, rfl, by simp, by simp⟩
  | some found =>
      simp only
      rw [Step.bind_of_ok (Action.log_apply ..)]
      exact ⟨_, rfl, by simp, by simp⟩

/-- A source line that could be read is the one that was asked for. -/
theorem SourceLocation.eq_of_read {tree : FileTree} {path : Path} {line : Int}
    {location : SourceLocation} (hread : read tree path line = .ok location) :
    location.path = path ∧ location.line = line := by
  rw [read] at hread
  cases hcontent : content tree path with
  | error failure => simp [hcontent, bind, Except.bind] at hread
  | ok content =>
      simp only [hcontent, bind, Except.bind, pick] at hread
      split at hread
      · cases hread
      · obtain rfl := Except.ok.inj hread
        exact ⟨rfl, rfl⟩

namespace Inspection

variable (runner : Runner) (system : Text) (toolchain : Toolchain) (location : SourceLocation)
  (object input : Path) (session : Session)

/-- Nothing but the runner and the object's place can end the inspection early: the source file is
resolved, both command lines can be cut into words, and once the compiler has ended it can be said
whether its object file is there. -/
structure Unhindered : Prop where
  raises : runner.RaisesOs
  resolves : session.tree.resolve location.path = .ok input
  splits : ∀ language, Language.ofFile? location.path.toText = some language →
    ∃ argv, ShellWords.split (CompileCommand.lineOf toolchain language input.toText
      object.toText) = .ok argv
  splitsAgain : ∃ words, ShellWords.split (Disassembly.commandLineOf object
    (Disassembly.binaryOf toolchain system)) = .ok words
  looks : ∀ language argv prepared, Language.ofFile? location.path.toText = some language →
    ShellWords.split (CompileCommand.lineOf toolchain language input.toText object.toText) =
      .ok argv →
    ObjectFile.prepare object session.tree = (.ok (), prepared) →
    ∃ there, (runner.answer session.calls.length ⟨argv, true, prepared⟩).2.isThere object = .ok there

/-- The file has a language, the place of the object is cleared, and the compiler is called on the tree
that is left; then the object file is looked for. -/
structure CompilerCalled (language : Language) (prepared : FileTree) (argv : List Text)
    (answer : Except OsError Reply) (compiled : FileTree) (there : Bool) : Prop where
  supported : Language.ofFile? location.path.toText = some language
  prepares : ObjectFile.prepare object session.tree = (.ok (), prepared)
  splits : ShellWords.split (CompileCommand.lineOf toolchain language input.toText object.toText) =
    .ok argv
  answers : runner.answer session.calls.length ⟨argv, true, prepared⟩ =
    (answer.mapError StartError.os, compiled)
  looks : compiled.isThere object = .ok there

/-- The disassembler is called second, on the tree that the compiler has left. -/
structure DisassemblerCalled (compiled : FileTree) (argv : List Text)
    (answer : Except OsError Reply) (final : FileTree) : Prop where
  splits : ShellWords.split (Disassembly.commandLineOf object
    (Disassembly.binaryOf toolchain system)) = .ok argv
  answers : runner.answer (session.calls.length + 1) ⟨argv, false, compiled⟩ =
    (answer.mapError StartError.os, final)

/-- What is known of the compilation after the compiler's call. -/
def compilationOf (language : Language) (argv : List Text) (there : Bool)
    (answer : Except OsError Reply) : Compilation :=
  .ofAnswer argv (CompileCommand.lineOf toolchain language input.toText object.toText) there answer

/-- What is known of the disassembly after the disassembler's call. -/
def disassemblyOf (answer : Except OsError Reply) : Disassembly :=
  .ofAnswer (Disassembly.binaryOf toolchain system)
    (Disassembly.commandLineOf object (Disassembly.binaryOf toolchain system)) answer

/-- How an inspection can go: its result, its calls in order, and the tree that is left. -/
inductive Course : Except Failure Inspection → List Call → FileTree → Prop
  | unsupported (hlanguage : Language.ofFile? location.path.toText = none) :
      Course (.error (.unsupportedFile location.path.toText)) [] session.tree
  | unprepared {language : Language} {failure : Failure} {tree : FileTree}
      (hlanguage : Language.ofFile? location.path.toText = some language)
      (hprepare : ObjectFile.prepare object session.tree = (.error failure, tree)) :
      Course (.error failure) [] tree
  | notCompiled {language : Language} {prepared compiled : FileTree} {argv : List Text}
      {answer : Except OsError Reply} {there : Bool}
      (hcompiler : CompilerCalled runner toolchain location object input session language prepared
        argv answer compiled there)
      (hfailed : Runner.Failed answer ∨ there = false) :
      Course (.error (.compilation (compilationOf toolchain object input language argv there answer)))
        [⟨argv, true, prepared⟩] compiled
  | notDisassembled {language : Language} {prepared compiled final : FileTree}
      {argv words : List Text} {answer second : Except OsError Reply}
      (hcompiler : CompilerCalled runner toolchain location object input session language prepared
        argv answer compiled true)
      (hcompiled : ¬ Runner.Failed answer)
      (hdisassembler : DisassemblerCalled runner system toolchain object session compiled words
        second final)
      (hfailed : Runner.Failed second) :
      Course (.error (.disassembly (disassemblyOf system toolchain object second)))
        [⟨argv, true, prepared⟩, ⟨words, false, compiled⟩] final
  | inspected {language : Language} {prepared compiled final : FileTree} {argv words : List Text}
      {answer second : Except OsError Reply}
      (hcompiler : CompilerCalled runner toolchain location object input session language prepared
        argv answer compiled true)
      (hcompiled : ¬ Runner.Failed answer)
      (hdisassembler : DisassemblerCalled runner system toolchain object session compiled words
        second final)
      (hdisassembled : ¬ Runner.Failed second) :
      Course (.ok
          { location
            command := .make toolchain language input.toText object.toText
            compilation := compilationOf toolchain object input language argv true answer
            disassembly := disassemblyOf system toolchain object second
            position := ListingMatch.find? (disassemblyOf system toolchain object second).output
              location.text (ListingMatch.markerOf location.path location.line) })
        [⟨argv, true, prepared⟩, ⟨words, false, compiled⟩] final

/-- The end of an inspection, from a disassembly on. -/
def afterDisassembly (command : CompileCommand) (compilation : Compilation)
    (disassembly : Disassembly) : Action Inspection := do
  if disassembly.succeeded then
    let position ← ListingMatch.findLogged disassembly.output location.text
      (ListingMatch.markerOf location.path location.line)
    pure ⟨location, command, compilation, disassembly, position⟩
  else
    throw (.disassembly disassembly)

/-- The rest of an inspection, from a compilation on. -/
def afterCompilation (command : CompileCommand) (compilation : Compilation) : Action Inspection := do
  if compilation.succeeded then
    let disassembly ← Disassembly.run runner toolchain system object
    afterDisassembly location command compilation disassembly
  else
    throw (.compilation compilation)

/-- All of an inspection that comes after the preparation of the object's place. -/
def afterPreparation (language : Language) : Action Inspection :=
  Compilation.run runner (CompileCommand.lineOf toolchain language input.toText object.toText)
      object >>=
    afterCompilation runner system toolchain location object
      (.make toolchain language input.toText object.toText)

def commandMessage (language : Language) : Text :=
  "Compile command built (command_line=" ++
    CompileCommand.lineOf toolchain language input.toText object.toText ++ ")"

/-- The session after the preparation of the object's place, which leaves some tree. -/
def preparedSession (language : Language) (tree : FileTree) : Session :=
  { session.record .debug (commandMessage toolchain object input language) with tree }

variable {runner system toolchain location object input session}

@[simp]
theorem calls_preparedSession {language : Language} {tree : FileTree} :
    (preparedSession toolchain object input session language tree).calls = session.calls := by
  simp [preparedSession]

@[simp]
theorem tree_preparedSession {language : Language} {tree : FileTree} :
    (preparedSession toolchain object input session language tree).tree = tree :=
  rfl

theorem run_of_unsupported (hlanguage : Language.ofFile? location.path.toText = none) :
    ∃ final : Session,
      run runner system toolchain location object session =
        (.error (.unsupportedFile location.path.toText), final) ∧
      final.calls = session.calls ∧ final.tree = session.tree := by
  obtain ⟨logged, hlogged, htree, hcalls⟩ :=
    Language.ofFileLogged_apply location.path.toText session
  rw [hlanguage] at hlogged
  unfold run
  rw [Step.bind_of_ok hlogged]
  exact ⟨logged, rfl, hcalls, htree⟩

/-- A file with a language is resolved, and then the place of the object is prepared. -/
theorem run_of_supported {language : Language}
    (hlanguage : Language.ofFile? location.path.toText = some language)
    (hinput : session.tree.resolve location.path = .ok input) :
    run runner system toolchain location object session =
      (Action.onTree (ObjectFile.prepare object) >>= fun _ =>
        afterPreparation runner system toolchain location object input language)
        (session.record .debug (commandMessage toolchain object input language)) := by
  have hlogged := Language.ofFileLogged_of_some hlanguage session
  have hresolved : Action.ofExcept (session.tree.resolve location.path) session =
      (.ok input, session) := by
    rw [hinput]
    rfl
  unfold run
  rw [Step.bind_of_ok hlogged]
  simp only
  rw [Step.bind_of_ok (Action.get_apply session), Step.bind_of_ok hresolved]
  have hcommand : CompileCommand.makeLogged toolchain language input.toText object.toText session =
      (.ok (.make toolchain language input.toText object.toText),
        session.record .debug (commandMessage toolchain object input language)) := rfl
  rw [Step.bind_of_ok hcommand]
  rfl

/-- A source path that cannot be resolved ends the inspection at once. -/
theorem run_of_unresolved {language : Language}
    (hlanguage : Language.ofFile? location.path.toText = some language) {failure : Failure}
    (hinput : session.tree.resolve location.path = .error failure) :
    run runner system toolchain location object session = (.error failure, session) := by
  have hlogged := Language.ofFileLogged_of_some hlanguage session
  unfold run
  rw [Step.bind_of_ok hlogged]
  simp only
  rw [Step.bind_of_ok (Action.get_apply session)]
  exact Step.bind_of_error (by rw [Action.ofExcept_apply, hinput])

theorem onTree_prepare {result : Except Failure Unit} {tree : FileTree}
    (hprepare : ObjectFile.prepare object session.tree = (result, tree)) (language : Language) :
    Action.onTree (ObjectFile.prepare object)
        (session.record .debug (commandMessage toolchain object input language)) =
      (result, preparedSession toolchain object input session language tree) := by
  rw [← Session.tree_record session .debug
    (commandMessage toolchain object input language)] at hprepare
  exact Action.onTree_of_eq hprepare

theorem run_of_unprepared {language : Language} {failure : Failure} {tree : FileTree}
    (hlanguage : Language.ofFile? location.path.toText = some language)
    (hinput : session.tree.resolve location.path = .ok input)
    (hprepare : ObjectFile.prepare object session.tree = (.error failure, tree)) :
    run runner system toolchain location object session =
      (.error failure, preparedSession toolchain object input session language tree) := by
  rw [run_of_supported hlanguage hinput]
  exact Step.bind_of_error (onTree_prepare hprepare language)

theorem run_of_prepared {language : Language} {tree : FileTree}
    (hlanguage : Language.ofFile? location.path.toText = some language)
    (hinput : session.tree.resolve location.path = .ok input)
    (hprepare : ObjectFile.prepare object session.tree = (.ok (), tree)) :
    run runner system toolchain location object session =
      afterPreparation runner system toolchain location object input language
        (preparedSession toolchain object input session language tree) := by
  rw [run_of_supported hlanguage hinput]
  exact Step.bind_of_ok (onTree_prepare hprepare language)

/-- Where the compiler is called and its object file looked for, the compilation is known. -/
theorem CompilerCalled.run_apply {language : Language} {prepared compiled : FileTree}
    {argv : List Text} {answer : Except OsError Reply} {there : Bool} {ready : Session}
    (hcompiler : CompilerCalled runner toolchain location object input session language prepared
      argv answer compiled there)
    (hcalls : ready.calls = session.calls) (htree : ready.tree = prepared) :
    ∃ final : Session,
      Compilation.run runner (CompileCommand.lineOf toolchain language input.toText object.toText)
          object ready =
        (.ok (compilationOf toolchain object input language argv there answer), final) ∧
      final.calls = session.calls ++ [⟨argv, true, prepared⟩] ∧ final.tree = compiled := by
  have hanswer : runner.answer ready.calls.length ⟨argv, true, ready.tree⟩ =
      (answer.mapError StartError.os, compiled) := by
    rw [hcalls, htree]
    exact hcompiler.answers
  obtain ⟨final, hrun, hfinal, hmade⟩ :=
    Compilation.run_apply hcompiler.splits hanswer hcompiler.looks
  exact ⟨final, hrun, by rw [hmade, hcalls, htree], hfinal⟩

theorem DisassemblerCalled.run_apply {compiled final : FileTree} {argv : List Text}
    {answer : Except OsError Reply} {first : Call} {ready : Session}
    (hdisassembler : DisassemblerCalled runner system toolchain object session compiled argv answer
      final)
    (hcalls : ready.calls = session.calls ++ [first]) (htree : ready.tree = compiled) :
    ∃ done : Session,
      Disassembly.run runner toolchain system object ready =
        (.ok (disassemblyOf system toolchain object answer), done) ∧
      done.calls = session.calls ++ [first, ⟨argv, false, compiled⟩] ∧ done.tree = final := by
  have hanswer : runner.answer ready.calls.length ⟨argv, false, ready.tree⟩ =
      (answer.mapError StartError.os, final) := by
    rw [hcalls, htree, List.length_append]
    exact hdisassembler.answers
  obtain ⟨done, hrun, hfinal, hmade⟩ := Disassembly.run_apply hdisassembler.splits hanswer
  refine ⟨done, hrun, ?_, hfinal⟩
  rw [hmade, hcalls, htree, List.append_assoc]
  rfl

/-- Where the place of the object could be cleared, the rest is done on the tree that is left. -/
theorem run_of_compilerCalled {language : Language} {prepared compiled : FileTree} {argv : List Text}
    {answer : Except OsError Reply} {there : Bool}
    (hinput : session.tree.resolve location.path = .ok input)
    (hcompiler : CompilerCalled runner toolchain location object input session language prepared
      argv answer compiled there) :
    ∃ done : Session,
      run runner system toolchain location object session =
        (afterCompilation runner system toolchain location object
          (.make toolchain language input.toText object.toText)
          (compilationOf toolchain object input language argv there answer)) done ∧
      done.calls = session.calls ++ [⟨argv, true, prepared⟩] ∧ done.tree = compiled := by
  obtain ⟨done, hcompile, hmade, hdone⟩ :=
    hcompiler.run_apply calls_preparedSession tree_preparedSession
  refine ⟨done, ?_, hmade, hdone⟩
  rw [run_of_prepared hcompiler.supported hinput hcompiler.prepares]
  exact Step.bind_of_ok hcompile

theorem succeeded_compilationOf {answer : Except OsError Reply} (hcompiled : ¬ Runner.Failed answer)
    (language : Language) (argv : List Text) :
    (compilationOf toolchain object input language argv true answer).succeeded = true := by
  rw [compilationOf, Compilation.succeeded_ofAnswer_iff]
  simpa using hcompiled

/-- Where the compiler has left its object, the rest is done after the disassembler's call. -/
theorem run_of_disassemblerCalled {language : Language} {prepared compiled final : FileTree}
    {argv words : List Text} {answer second : Except OsError Reply}
    (hinput : session.tree.resolve location.path = .ok input)
    (hcompiler : CompilerCalled runner toolchain location object input session language prepared
      argv answer compiled true)
    (hcompiled : ¬ Runner.Failed answer)
    (hdisassembler : DisassemblerCalled runner system toolchain object session compiled words
      second final) :
    ∃ done : Session,
      run runner system toolchain location object session =
        afterDisassembly location (.make toolchain language input.toText object.toText)
          (compilationOf toolchain object input language argv true answer)
          (disassemblyOf system toolchain object second) done ∧
      done.calls = session.calls ++ [⟨argv, true, prepared⟩, ⟨words, false, compiled⟩] ∧
      done.tree = final := by
  obtain ⟨ready, hrun, hcalls, htree⟩ := run_of_compilerCalled hinput hcompiler
  obtain ⟨done, hdisassemble, hmade, hdone⟩ := hdisassembler.run_apply hcalls htree
  refine ⟨done, ?_, hmade, hdone⟩
  rw [hrun, afterCompilation, if_pos (succeeded_compilationOf hcompiled language argv), Step.bind_of_ok hdisassemble]

/-- A course says how the inspection goes. -/
theorem run_of_course (hinput : session.tree.resolve location.path = .ok input)
    {result : Except Failure Inspection} {made : List Call} {tree : FileTree}
    (hcourse : Course runner system toolchain location object input session result made tree) :
    ∃ final : Session,
      run runner system toolchain location object session = (result, final) ∧
      final.calls = session.calls ++ made ∧ final.tree = tree := by
  cases hcourse with
  | unsupported hlanguage =>
      rw [List.append_nil]
      exact run_of_unsupported hlanguage
  | unprepared hlanguage hprepare =>
      rw [run_of_unprepared hlanguage hinput hprepare, List.append_nil]
      exact ⟨_, rfl, calls_preparedSession, tree_preparedSession⟩
  | notCompiled hcompiler hfailed =>
      obtain ⟨done, hrun, hcalls, htree⟩ := run_of_compilerCalled hinput hcompiler
      refine ⟨done, ?_, hcalls, htree⟩
      rw [hrun, afterCompilation, if_neg]
      · rfl
      · rw [compilationOf, Compilation.succeeded_ofAnswer_iff]
        exact not_not_intro hfailed
  | notDisassembled hcompiler hcompiled hdisassembler hfailed =>
      obtain ⟨done, hrun, hcalls, htree⟩ :=
        run_of_disassemblerCalled hinput hcompiler hcompiled hdisassembler
      refine ⟨done, ?_, hcalls, htree⟩
      rw [hrun, afterDisassembly, if_neg]
      · rfl
      · rw [disassemblyOf, Disassembly.succeeded_ofAnswer_iff]
        exact not_not_intro hfailed
  | inspected hcompiler hcompiled hdisassembler hdisassembled =>
      obtain ⟨done, hrun, hcalls, htree⟩ :=
        run_of_disassemblerCalled hinput hcompiler hcompiled hdisassembler
      obtain ⟨final, hfound, hsame, hmade⟩ := ListingMatch.findLogged_apply _ location.text
        (ListingMatch.markerOf location.path location.line) done
      refine ⟨final, ?_, by rw [hmade, hcalls], by rw [hsame, htree]⟩
      rw [hrun, afterDisassembly, if_pos, Step.bind_of_ok hfound]
      · rfl
      · rw [disassemblyOf, Disassembly.succeeded_ofAnswer_iff]
        exact hdisassembled

theorem exists_compilerCalled {language : Language} {prepared : FileTree} {argv : List Text}
    {there : Bool}
    (hrunner : runner.RaisesOsFor (CompileCommand.lineOf toolchain language input.toText object.toText))
    (hlanguage : Language.ofFile? location.path.toText = some language)
    (hprepare : ObjectFile.prepare object session.tree = (.ok (), prepared))
    (hargv : ShellWords.split (CompileCommand.lineOf toolchain language input.toText
      object.toText) = .ok argv)
    (hthere : (runner.answer session.calls.length ⟨argv, true, prepared⟩).2.isThere object =
      .ok there) :
    ∃ answer compiled, CompilerCalled runner toolchain location object input session language
      prepared argv answer compiled there := by
  obtain ⟨answer, hanswer⟩ := hrunner argv hargv session.calls.length true prepared
  exact ⟨answer, _, hlanguage, hprepare, hargv, Prod.ext hanswer rfl, hthere⟩

/-- Where the compiler has left its object, the disassembler's words are all that is wanting. -/
theorem exists_course_of_words {language : Language} {prepared compiled : FileTree}
    {argv words : List Text} {answer : Except OsError Reply}
    (hrunner : runner.RaisesOsFor
      (Disassembly.commandLineOf object (Disassembly.binaryOf toolchain system)))
    (hcompiler : CompilerCalled runner toolchain location object input session language prepared
      argv answer compiled true)
    (hcompiled : ¬ Runner.Failed answer)
    (hwords : ShellWords.split (Disassembly.commandLineOf object
      (Disassembly.binaryOf toolchain system)) = .ok words) :
    ∃ result made tree,
      Course runner system toolchain location object input session result made tree := by
  obtain ⟨second, hsecond⟩ := hrunner words hwords (session.calls.length + 1) false compiled
  have hdisassembler : DisassemblerCalled runner system toolchain object session compiled words
      second _ :=
    ⟨hwords, Prod.ext hsecond rfl⟩
  by_cases hfailed : Runner.Failed second
  · exact ⟨_, _, _, .notDisassembled hcompiler hcompiled hdisassembler hfailed⟩
  · exact ⟨_, _, _, .inspected hcompiler hcompiled hdisassembler hfailed⟩

/-- An unhindered inspection takes one of the courses. -/
theorem exists_course
    (hunhindered : Unhindered runner system toolchain location object input session) :
    ∃ result made tree,
      Course runner system toolchain location object input session result made tree := by
  cases hlanguage : Language.ofFile? location.path.toText with
  | none => exact ⟨_, _, _, .unsupported hlanguage⟩
  | some language =>
      cases hprepare : ObjectFile.prepare object session.tree with
      | mk prepareResult prepared =>
          cases prepareResult with
          | error failure => exact ⟨_, _, _, .unprepared hlanguage hprepare⟩
          | ok =>
              obtain ⟨argv, hargv⟩ := hunhindered.splits language hlanguage
              obtain ⟨there, hthere⟩ :=
                hunhindered.looks language argv prepared hlanguage hargv hprepare
              obtain ⟨answer, compiled, hcompiler⟩ :=
                exists_compilerCalled (hunhindered.raises.raisesOsFor _) hlanguage hprepare hargv hthere
              by_cases hfailed : Runner.Failed answer ∨ there = false
              · exact ⟨_, _, _, .notCompiled hcompiler hfailed⟩
              · obtain ⟨hcompiled, hobject⟩ := not_or.mp hfailed
                obtain rfl : there = true := by simpa using hobject
                obtain ⟨words, hwords⟩ := hunhindered.splitsAgain
                exact exists_course_of_words (hunhindered.raises.raisesOsFor _) hcompiler hcompiled
                  hwords

/-- The result, the calls and the tree of an inspection are those of its course. -/
theorem run_eq_iff_course
    (hunhindered : Unhindered runner system toolchain location object input session)
    {result : Except Failure Inspection} {made : List Call} {tree : FileTree} :
    ((run runner system toolchain location object session).1 = result ∧
      (run runner system toolchain location object session).2.calls = session.calls ++ made ∧
      (run runner system toolchain location object session).2.tree = tree) ↔
    Course runner system toolchain location object input session result made tree := by
  constructor
  · rintro ⟨hresult, hmade, htree⟩
    obtain ⟨other, calls, left, hcourse⟩ := exists_course hunhindered
    obtain ⟨final, hrun, hcalls, hleft⟩ := run_of_course hunhindered.resolves hcourse
    rw [hrun] at hresult hmade htree
    obtain rfl : other = result := hresult
    obtain rfl : calls = made := List.append_cancel_left (hcalls.symm.trans hmade)
    obtain rfl : left = tree := hleft.symm.trans htree
    exact hcourse
  · intro hcourse
    obtain ⟨final, hrun, hcalls, hleft⟩ := run_of_course hunhindered.resolves hcourse
    rw [hrun]
    exact ⟨rfl, hcalls, hleft⟩

/-- Every result of an unhindered inspection belongs to a course. -/
theorem exists_course_of_run
    (hunhindered : Unhindered runner system toolchain location object input session)
    {result : Except Failure Inspection}
    (hresult : (run runner system toolchain location object session).1 = result) :
    ∃ made tree,
      Course runner system toolchain location object input session result made tree := by
  obtain ⟨other, made, tree, hcourse⟩ := exists_course hunhindered
  obtain ⟨hother, _, _⟩ := (run_eq_iff_course hunhindered).mpr hcourse
  obtain rfl : other = result := hother.symm.trans hresult
  exact ⟨made, tree, hcourse⟩

/-- The compilation is to blame exactly when the compiler was called and failed or left no object. -/
theorem run_eq_compilation_iff
    (hunhindered : Unhindered runner system toolchain location object input session) :
    (∃ compilation, (run runner system toolchain location object session).1 =
      .error (.compilation compilation)) ↔
    ∃ language prepared argv answer compiled there,
      CompilerCalled runner toolchain location object input session language prepared argv answer
        compiled there ∧
      (Runner.Failed answer ∨ there = false) := by
  constructor
  · rintro ⟨compilation, hresult⟩
    obtain ⟨made, tree, hcourse⟩ := exists_course_of_run hunhindered hresult
    cases hcourse with
    | unprepared _ hprepare => exact absurd (ObjectFile.ofTree_of_prepare hprepare) not_false
    | notCompiled hcompiler hfailed => exact ⟨_, _, _, _, _, _, hcompiler, hfailed⟩
  · rintro ⟨language, prepared, argv, answer, compiled, there, hcompiler, hfailed⟩
    exact ⟨_, ((run_eq_iff_course hunhindered).mpr (.notCompiled hcompiler hfailed)).1⟩

/-- The disassembly is to blame exactly when the compiler left its object and the disassembler was
called and failed. -/
theorem run_eq_disassembly_iff
    (hunhindered : Unhindered runner system toolchain location object input session) :
    (∃ disassembly, (run runner system toolchain location object session).1 =
      .error (.disassembly disassembly)) ↔
    ∃ language prepared argv answer compiled words second final,
      CompilerCalled runner toolchain location object input session language prepared argv answer
        compiled true ∧
      ¬ Runner.Failed answer ∧
      DisassemblerCalled runner system toolchain object session compiled words second final ∧
      Runner.Failed second := by
  constructor
  · rintro ⟨disassembly, hresult⟩
    obtain ⟨made, tree, hcourse⟩ := exists_course_of_run hunhindered hresult
    cases hcourse with
    | unprepared _ hprepare => exact absurd (ObjectFile.ofTree_of_prepare hprepare) not_false
    | notDisassembled hcompiler hcompiled hdisassembler hfailed =>
        exact ⟨_, _, _, _, _, _, _, _, hcompiler, hcompiled, hdisassembler, hfailed⟩
  · rintro ⟨language, prepared, argv, answer, compiled, words, second, final, hcompiler, hcompiled,
      hdisassembler, hfailed⟩
    exact ⟨_, ((run_eq_iff_course hunhindered).mpr
      (.notDisassembled hcompiler hcompiled hdisassembler hfailed)).1⟩

/-- An unhindered inspection goes exactly as its course says, and the failures of the two programs are
the only ones that it reports as theirs. -/
theorem run_follows_course
    (hunhindered : Unhindered runner system toolchain location object input session) :
    (∀ {result made tree},
      ((run runner system toolchain location object session).1 = result ∧
        (run runner system toolchain location object session).2.calls = session.calls ++ made ∧
        (run runner system toolchain location object session).2.tree = tree) ↔
      Course runner system toolchain location object input session result made tree) ∧
    ((∃ compilation, (run runner system toolchain location object session).1 =
        .error (.compilation compilation)) ↔
      ∃ language prepared argv answer compiled there,
        CompilerCalled runner toolchain location object input session language prepared argv answer
          compiled there ∧
        (Runner.Failed answer ∨ there = false)) ∧
    ((∃ disassembly, (run runner system toolchain location object session).1 =
        .error (.disassembly disassembly)) ↔
      ∃ language prepared argv answer compiled words second final,
        CompilerCalled runner toolchain location object input session language prepared argv answer
          compiled true ∧
        ¬ Runner.Failed answer ∧
        DisassemblerCalled runner system toolchain object session compiled words second final ∧
        Runner.Failed second) :=
  ⟨run_eq_iff_course hunhindered, run_eq_compilation_iff hunhindered,
    run_eq_disassembly_iff hunhindered⟩

/-- A compiler that ends well but leaves no object is to blame. -/
theorem run_follows_course_of_idle_compiler :
    ∃ compilation, (run .idle "Linux" {}
      ⟨Path.ofText "f.c", 1, "int x;"⟩ (Path.ofText "x.o")
      (.start (FileTree.bare ["w"]) .info)).1 = .error (.compilation compilation) := by
  have hprepare : ObjectFile.prepare (Path.ofText "x.o") (FileTree.bare ["w"]) =
      (.ok (), FileTree.bare ["w"]) := rfl
  have hunhindered : Unhindered .idle "Linux" {}
      ⟨Path.ofText "f.c", 1, "int x;"⟩ (Path.ofText "x.o") (Path.ofText "/w/f.c")
      (.start (FileTree.bare ["w"]) .info) := by
    refine ⟨fun _ _ => ⟨.ok ⟨0, [], []⟩, rfl⟩, rfl, ?_, ⟨_, rfl⟩, ?_⟩
    · intro language hlanguage
      obtain rfl : Language.c = language := Option.some.inj hlanguage
      exact ⟨_, rfl⟩
    · intro language argv prepared _ _ hprepared
      obtain rfl : FileTree.bare ["w"] = prepared := congrArg Prod.snd (hprepare.symm.trans hprepared)
      exact ⟨false, rfl⟩
  have hcompiler : CompilerCalled .idle {}
      ⟨Path.ofText "f.c", 1, "int x;"⟩ (Path.ofText "x.o") (Path.ofText "/w/f.c")
      (.start (FileTree.bare ["w"]) .info) .c (FileTree.bare ["w"])
      ["cc", "-march=native", "-g", "-c", "-o", "x.o", "/w/f.c"] (.ok ⟨0, [], []⟩)
      (FileTree.bare ["w"]) false :=
    ⟨rfl, hprepare, rfl, rfl, rfl⟩
  exact (run_follows_course hunhindered).2.1.mpr ⟨_, _, _, _, _, _, hcompiler, .inr rfl⟩

end Inspection

end AsmLens
