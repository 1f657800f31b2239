import AsmLens.Proofs.CommandWords
import AsmLens.Proofs.Escape
import AsmLens.Runner.System

/-!
# Runs on the programs of a system

A call on a system starts a program, or leaves the tree as it was. Where no variable has a NUL byte in
its value, the words of a run can always be handed to a program, so that no failure leaves the run but
for the causes that any other run has.
-/

namespace AsmLens

theorem Runner.return_not_mem_captured (bytes : List UInt8) : '\r' ∉ Runner.captured bytes :=
  Text.return_not_mem_unifyNewlines _

/-- With the error output merged, all that was written is captured as one text, in order. -/
theorem Completion.reply_true (completion : Completion) :
    completion.reply true =
      ⟨completion.exitCode, Runner.captured (completion.written.flatMap Prod.snd), []⟩ := by
  have hall : completion.bytesOn (fun channel => true || channel = .output) =
      completion.written.flatMap Prod.snd := by simp [bytesOn]
  have hnone : completion.bytesOn (fun channel => !true && channel = .errors) = [] := by
    simp [bytesOn]
  rw [reply, hall, hnone]
  rfl

namespace System

/-- Why a call starts no program. -/
inductive Refuses (system : System) (call : Call) : StartError → Prop
  | noWords (hargv : call.argv = []) : Refuses system call .noWords
  | nulByte {word : Text} (hword : word ∈ call.argv) (hnul : '\x00' ∈ word) :
      Refuses system call .nulByte
  | unstarted {name : Text} {arguments : List Text} {errno : Errno}
      (hargv : call.argv = name :: arguments) (hfree : ∀ word ∈ call.argv, '\x00' ∉ word)
      (hstart : system call.tree name arguments = .error errno) :
      Refuses system call (.os (errno.at name))

variable (system : System) (call : Call)

/-- A call is refused, or else its program runs in the directory of the call. -/
theorem refuses_or_runs :
    (∃ error, system.Refuses call error ∧ system.answer call = (.error error, call.tree)) ∨
      ∃ name arguments completion, call.argv = name :: arguments ∧
        system call.tree name arguments = .ok completion ∧
        system.answer call = (.ok (completion.reply call.mergeErrors),
          { completion.tree with workingDirectory := call.tree.workingDirectory }) := by
  unfold answer
  split
  · next hargv => exact .inl ⟨_, .noWords hargv, rfl⟩
  · next name arguments hargv =>
      split
      · next hnul =>
          obtain ⟨word, hword, hnul⟩ := List.any_eq_true.mp hnul
          exact .inl ⟨_, .nulByte hword (by simpa using hnul), rfl⟩
      · next hfree =>
          have hwords : ∀ word ∈ call.argv, '\x00' ∉ word := by simpa using hfree
          split
          · next errno hstart => exact .inl ⟨_, .unstarted hargv hwords hstart, rfl⟩
          · next completion hstart =>
              exact .inr ⟨name, arguments, completion, hargv, hstart, rfl⟩

variable {system call}

theorem answer_of_refuses {error : StartError} (hrefuses : system.Refuses call error) :
    system.answer call = (.error error, call.tree) := by
  unfold answer
  cases hrefuses with
  | noWords hargv =>
      split
      · rfl
      · next hwords => simp [hargv] at hwords
  | nulByte hword hnul =>
      split
      · next hargv => simp [hargv] at hword
      · rw [if_pos (List.any_eq_true.mpr ⟨_, hword, by simpa using hnul⟩)]
  | unstarted hargv hfree hstart =>
      split
      · next hnone => simp [hargv] at hnone
      · next name arguments hwords =>
          obtain ⟨rfl, rfl⟩ := List.cons.inj (hargv.symm.trans hwords)
          rw [if_neg (by simpa using hfree), hstart]

/-- A call fails exactly if it is refused, and then the tree is as it was. -/
theorem answer_eq_error_iff {error : StartError} {tree : FileTree} :
    system.answer call = (.error error, tree) ↔ system.Refuses call error ∧ tree = call.tree := by
  constructor
  · intro hanswer
    rcases system.refuses_or_runs call with ⟨other, hrefuses, hother⟩ | ⟨_, _, _, _, _, hother⟩
    · obtain ⟨herror, htree⟩ := Prod.mk.inj (hanswer.symm.trans hother)
      obtain rfl := Except.error.inj herror
      exact ⟨hrefuses, htree⟩
    · cases hanswer.symm.trans hother
  · rintro ⟨hrefuses, rfl⟩
    exact answer_of_refuses hrefuses

theorem workingDirectory_answer (system : System) (call : Call) :
    (system.answer call).2.workingDirectory = call.tree.workingDirectory := by
  rcases system.refuses_or_runs call with ⟨_, _, hanswer⟩ | ⟨_, _, _, _, _, hanswer⟩ <;> rw [hanswer]

/-- The words of a line that is not blank, and has no NUL byte, can be handed to a program. -/
theorem raisesOsFor (system : System) {commandLine : Text} (hfree : '\x00' ∉ commandLine)
    (hline : commandLine.strip ≠ []) :
    (Runner.ofSystem system).RaisesOsFor commandLine := by
  intro argv hsplit position mergeErrors tree
  rcases system.refuses_or_runs ⟨argv, mergeErrors, tree⟩ with
    ⟨error, hrefuses, hanswer⟩ | ⟨_, _, completion, _, _, hanswer⟩
  · cases hrefuses with
    | noWords hargv => exact absurd hargv (ShellWords.ne_nil_of_split hsplit hline)
    | nulByte hword hnul =>
        exact absurd hnul (ShellWords.not_mem_of_split hsplit (by decide) hfree _ hword)
    | unstarted => exact ⟨.error _, congrArg Prod.fst hanswer⟩
  · exact ⟨.ok _, congrArg Prod.fst hanswer⟩

end System

/-- No variable has a NUL byte in its value, as none has that a process is handed. -/
def Environment.NulFree (environment : Environment) : Prop :=
  ∀ name value, environment name = some value → '\x00' ∉ value

namespace Toolchain

variable {environment : Environment} {toolchain : Toolchain} {language : Language}

theorem nul_not_mem_setting (hfree : environment.NulFree)
    (hread : ofEnvironment environment = .ok toolchain) {setting : Setting} {text : Text}
    (htext : toolchain.setting? setting = some text) : '\x00' ∉ text := by
  rw [ofEnvironment_eq_ok_iff.mp hread setting] at htext
  exact Environment.not_mem_of_setting? (hfree _) (by cases setting <;> decide) htext

theorem nul_not_mem_lineOf (hfree : environment.NulFree)
    (hread : ofEnvironment environment = .ok toolchain) {input output : Text}
    (hinput : '\x00' ∉ input) (houtput : '\x00' ∉ output) :
    '\x00' ∉ CompileCommand.lineOf toolchain language input output := by
  rw [CompileCommand.lineOf, Path.mem_join_iff (by decide)]
  rintro ⟨part, hpart, hnul⟩
  have hmem := List.mem_of_mem_filter hpart
  simp only [List.mem_cons, List.not_mem_nil, or_false] at hmem
  rcases hmem with rfl | rfl | rfl | rfl | rfl | rfl | rfl
  · exact nul_not_mem_setting hfree hread (toolchain.setting?_compilerSetting language) hnul
  · exact nul_not_mem_setting hfree hread (toolchain.setting?_flagsSetting language) hnul
  · exact absurd hnul (by decide)
  · exact absurd hnul (by decide)
  · exact absurd hnul (by decide)
  · exact ShellWords.not_mem_quote (by decide) (by decide) houtput hnul
  · exact ShellWords.not_mem_quote (by decide) (by decide) hinput hnul

theorem nul_not_mem_binaryOf (hfree : environment.NulFree)
    (hread : ofEnvironment environment = .ok toolchain) (system : Text) :
    '\x00' ∉ Disassembly.binaryOf toolchain system := by
  have hown : '\x00' ∉ Disassembly.binaryOn system := by
    unfold Disassembly.binaryOn
    split <;> decide
  unfold Disassembly.binaryOf
  split
  · next binary hbinary =>
      split
      · exact hown
      · have hsetting : toolchain.setting? .disassembler = some binary := hbinary
        exact nul_not_mem_setting hfree hread hsetting
  · exact hown

end Toolchain

theorem CompileCommand.strip_lineOf_ne_nil (toolchain : Toolchain) (language : Language)
    (input output : Text) : (lineOf toolchain language input output).strip ≠ [] := by
  have hdash : '-' ∈ lineOf toolchain language input output :=
    (Path.mem_join_iff (by decide)).mpr
      ⟨"-g", List.mem_filter.mpr ⟨by simp, by decide⟩, by decide⟩
  exact List.ne_nil_of_mem (Text.mem_strip hdash (by decide))

theorem Disassembly.nul_not_mem_commandLineOf {object : Path} {binary : Text}
    (hobject : '\x00' ∉ object.toText) (hbinary : '\x00' ∉ binary) :
    '\x00' ∉ commandLineOf object binary := by
  rw [commandLineOf, Path.mem_join_iff (by decide)]
  rintro ⟨part, hpart, hnul⟩
  rcases List.mem_append.mp hpart with hpart | hpart
  · rcases List.mem_cons.mp hpart with rfl | hflag
    · exact hbinary hnul
    · have hflags : ∀ flag ∈ flags, '\x00' ∉ flag := by decide
      exact hflags part hflag hnul
  · obtain rfl := List.mem_singleton.mp hpart
    exact ShellWords.not_mem_quote (by decide) (by decide) hobject hnul

theorem Disassembly.strip_commandLineOf_ne_nil (object : Path) (binary : Text) :
    (commandLineOf object binary).strip ≠ [] := by
  have hdash : '-' ∈ commandLineOf object binary :=
    (Path.mem_join_iff (by decide)).mpr ⟨"-d", by simp [flags], by decide⟩
  exact List.ne_nil_of_mem (Text.mem_strip hdash (by decide))

/-- Both lines of an inspection have words, and their words have no NUL bytes. -/
theorem Inspection.raisesOsOnly_ofSystem {environment : Environment} {toolchain : Toolchain}
    (hfree : environment.NulFree) (hread : Toolchain.ofEnvironment environment = .ok toolchain)
    (system : System) (name : Text) (location : SourceLocation) (object : Path) (session : Session) :
    RaisesOsOnly (.ofSystem system) name toolchain location object session where
  compiler language input _ hinput hprepare :=
    system.raisesOsFor
      (toolchain.nul_not_mem_lineOf hfree hread (FileTree.nul_not_mem_of_resolve hinput)
        (ObjectFile.nul_not_mem_of_prepare hprepare))
      (CompileCommand.strip_lineOf_ne_nil toolchain language input.toText object.toText)
  disassembler _ hprepare :=
    system.raisesOsFor
      (Disassembly.nul_not_mem_commandLineOf (ObjectFile.nul_not_mem_of_prepare hprepare)
        (toolchain.nul_not_mem_binaryOf hfree hread name))
      (Disassembly.strip_commandLineOf_ne_nil object (Disassembly.binaryOf toolchain name))

namespace CommandLine

variable {host : Host} {environment : Environment} {argv : List Text} {session : Session}

theorem raisesOsOnly_ofSystem (hfree : environment.NulFree) (system : System) :
    RaisesOsOnly host environment (.ofSystem system) argv session :=
  fun inquiry object hasks _ =>
    Inspection.raisesOsOnly_ofSystem hfree hasks.configures.equips system host.system
      inquiry.location object _

/-- On any system, the failures that leave a run are those of the causes, and without any of these the
run ends with one of its exit codes: a program that cannot be started never makes a run fail. -/
theorem run_on_system_ends_or_escapes (hfree : environment.NulFree) (system : System) :
    (∀ {failure}, (run host environment (.ofSystem system) argv session).1 = .error failure ↔
      Escape host environment (.ofSystem system) argv session failure) ∧
    ((∀ failure, ¬ Escape host environment (.ofSystem system) argv session failure) →
      ∃ ending, (run host environment (.ofSystem system) argv session).1 = .ok ending ∧
        ending.exitCode.toNat ∈ [0, 1, 2]) :=
  have hcalls := raisesOsOnly_ofSystem hfree system
  ⟨⟨escape_of_run hcalls, run_of_escape hcalls⟩, ends_of_forall_not_escape hcalls⟩

end CommandLine

end AsmLens
