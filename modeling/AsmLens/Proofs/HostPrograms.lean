import AsmLens.Proofs.SystemRunner
import AsmLens.Runner.Host

/-!
# The programs of a host

A name without a slash is looked for in the directories of the search path, one after the other. However
many interpreters stand before a program, it is handed the arguments of its call as its last words.
-/

namespace AsmLens

namespace Shell.Program

variable {tree : FileTree} {directories : List Text} {name : Text} {arguments : List Text}
  {program : Program} {errno : Errno}

theorem searchAfter_eq_ok_iff {before : Errno} :
    searchAfter tree name arguments before directories = .ok program ↔
      ∃ passed directory rest, directories = passed ++ directory :: rest ∧
        (∀ other ∈ passed, ∃ errno, ofDirectory tree name arguments other = .error errno) ∧
        ofDirectory tree name arguments directory = .ok program := by
  induction directories generalizing before with
  | nil => simp [searchAfter]
  | cons first others ih =>
      rw [searchAfter]
      cases hfirst : ofDirectory tree name arguments first with
      | ok found =>
          constructor
          · intro hfound
            exact ⟨[], first, others, rfl, by simp, hfirst.trans hfound⟩
          · rintro ⟨passed, directory, rest, hsplit, hpassed, hfound⟩
            cases passed with
            | nil =>
                obtain ⟨rfl, rfl⟩ := List.cons.inj hsplit
                exact hfirst.symm.trans hfound
            | cons other passed =>
                obtain ⟨rfl, -⟩ := List.cons.inj hsplit
                obtain ⟨errno, hmissing⟩ := hpassed first List.mem_cons_self
                cases hfirst.symm.trans hmissing
      | error missing =>
          simp only
          rw [ih]
          constructor
          · rintro ⟨passed, directory, rest, rfl, hpassed, hfound⟩
            exact ⟨first :: passed, directory, rest, rfl,
              List.forall_mem_cons.mpr ⟨⟨missing, hfirst⟩, hpassed⟩, hfound⟩
          · rintro ⟨passed, directory, rest, hsplit, hpassed, hfound⟩
            cases passed with
            | nil =>
                obtain ⟨rfl, -⟩ := List.cons.inj hsplit
                cases hfirst.symm.trans hfound
            | cons other passed =>
                obtain ⟨-, hrest⟩ := List.cons.inj hsplit
                exact ⟨passed, directory, rest, hrest, (List.forall_mem_cons.mp hpassed).2, hfound⟩

/-- A search finds the program of the first directory that has one. -/
theorem search_eq_ok_iff :
    search tree directories name arguments = .ok program ↔
      ∃ passed directory rest, directories = passed ++ directory :: rest ∧
        (∀ other ∈ passed, ∃ errno, ofDirectory tree name arguments other = .error errno) ∧
        ofDirectory tree name arguments directory = .ok program :=
  searchAfter_eq_ok_iff

theorem searchAfter_eq_error_iff {before : Errno} :
    searchAfter tree name arguments before directories = .error errno ↔
      ∃ errnos, List.Forall₂ (fun directory errno =>
          ofDirectory tree name arguments directory = .error errno) directories errnos ∧
        errno = ((before :: errnos).find? fun errno => !isAbsence errno).getD
          (errnos.getLastD before) := by
  induction directories generalizing before with
  | nil => 
      cases hbefore : isAbsence before <;> simp [searchAfter, hbefore, eq_comm]
  | cons first others ih =>
      rw [searchAfter]
      cases hfirst : ofDirectory tree name arguments first with
      | ok found => simp [List.forall₂_cons_left_iff, hfirst]
      | error missing =>
          simp only
          rw [ih]
          cases hbefore : isAbsence before with
          | true => simp [List.forall₂_cons_left_iff, List.getLast?_cons, hfirst, hbefore]
          | false => simp [List.forall₂_cons_left_iff, hfirst, hbefore]

/-- A search fails if all directories do; of their errors the first counts that is not about absence, or
else the last. -/
theorem search_eq_error_iff :
    search tree directories name arguments = .error errno ↔
      ∃ errnos, List.Forall₂ (fun directory errno =>
          ofDirectory tree name arguments directory = .error errno) directories errnos ∧
        errno = (errnos.find? fun errno => !isAbsence errno).getD (errnos.getLastD .noEntry) := by
  have habsent : isAbsence .noEntry = true := rfl
  rw [search, searchAfter_eq_error_iff]
  simp only [List.find?_cons, habsent, Bool.not_true]

/-- What an interpreter is handed stands before the arguments. -/
theorem suffix_of_ofPath {files : Nat} {path : Text}
    (hfound : ofPath tree files path name arguments = .ok program) :
    arguments <:+ program.arguments := by
  induction files generalizing path name arguments with
  | zero =>
      rw [ofPath] at hfound
      split at hfound <;> cases hfound
  | succ files ih =>
      rw [ofPath] at hfound
      split at hfound
      · obtain rfl := Except.ok.inj hfound
        exact List.suffix_rfl
      · split at hfound
        · cases hfound
        · cases hfound
        · next interpreter extra _ _ =>
            have hpath : arguments <:+ extra ++ path :: arguments :=
              (List.suffix_cons path arguments).trans (List.suffix_append extra _)
            exact hpath.trans (ih hfound)
      · cases hfound
      · cases hfound

theorem suffix_of_ofWords (hfound : ofWords tree directories name arguments = .ok program) :
    arguments <:+ program.arguments := by
  unfold ofWords at hfound
  split at hfound
  · exact suffix_of_ofPath hfound
  · obtain ⟨_, directory, _, _, _, hprogram⟩ := search_eq_ok_iff.mp hfound
    exact suffix_of_ofPath hprogram

end Shell.Program

/-- A program ends by itself with one of 256 codes; a signal has a negative one. -/
theorem Shell.Machine.exitCode_lt (machine : Shell.Machine) : machine.exitCode < 256 := by
  unfold Shell.Machine.exitCode
  split
  · omega
  · omega

namespace Runner

/-- What a host answers is what its program leaves, which was handed the arguments of the call as its
last words. -/
theorem program_of_host_answer {bindings : List (Text × Text)} {position : Nat} {call : Call}
    {reply : Reply} {tree : FileTree}
    (hanswer : (Runner.host bindings).answer position call = (.ok reply, tree)) :
    ∃ name arguments program, call.argv = name :: arguments ∧
      Shell.programOf bindings call.tree name arguments = .ok program ∧
      arguments <:+ program.arguments ∧
      reply = (Shell.runProgram (Shell.withHome bindings) call.tree program).completion.reply
        call.mergeErrors ∧
      reply.exitCode < 256 := by
  rcases (Shell.system bindings).refuses_or_runs call with
    ⟨_, _, hrefused⟩ | ⟨name, arguments, completion, hargv, hstart, hran⟩
  · cases hanswer.symm.trans hrefused
  · obtain ⟨hreply, -⟩ := Prod.mk.inj (hanswer.symm.trans hran)
    obtain rfl := Except.ok.inj hreply
    unfold Shell.system at hstart
    cases hfound : Shell.programOf bindings call.tree name arguments with
    | error errno =>
        rw [hfound] at hstart
        cases hstart
    | ok program =>
        rw [hfound] at hstart
        obtain rfl := Except.ok.inj hstart
        exact ⟨name, arguments, program, hargv, hfound, Shell.Program.suffix_of_ofWords hfound, rfl,
          Shell.Machine.exitCode_lt _⟩

/-- A compiler of a host is handed the paths of its command line, behind the fixed switches, as its last
words. -/
theorem compiler_of_host_answer {environment : Environment} {toolchain : Toolchain} {language : Language}
    {compiler flags argv : List Text} {input output : Text} {bindings : List (Text × Text)}
    {position : Nat} {mergeErrors : Bool} {tree changed : FileTree} {reply : Reply}
    (hread : Toolchain.ofEnvironment environment = .ok toolchain)
    (hcompiler : ShellWords.split (toolchain.compiler language) = .ok compiler)
    (hflags : ShellWords.split (toolchain.flags language) = .ok flags)
    (hargv : ShellWords.split (CompileCommand.lineOf toolchain language input output) = .ok argv)
    (hanswer : (Runner.host bindings).answer position ⟨argv, mergeErrors, tree⟩ = (.ok reply, changed)) :
    ∃ name program, compiler.head? = some name ∧
      Shell.programOf bindings tree name argv.tail = .ok program ∧
      (["-g", "-c", "-o", output, input] : List Text) <:+ program.arguments := by
  have hwords : compiler ≠ [] :=
    ShellWords.ne_nil_of_split hcompiler (Toolchain.strip_compiler_ne_nil hread language)
  obtain ⟨first, rest, rfl⟩ := List.exists_cons_of_ne_nil hwords
  rw [ShellWords.split_lineOf hread hcompiler hflags] at hargv
  obtain rfl := Except.ok.inj hargv
  obtain ⟨name, arguments, program, hcall, hfound, hsuffix, -⟩ := program_of_host_answer hanswer
  obtain ⟨rfl, rfl⟩ := List.cons.inj hcall
  exact ⟨first, program, rfl, hfound, (List.suffix_append _ _).trans hsuffix⟩

end Runner

theorem Environment.nulFree_ofList {bindings : List (Text × Text)}
    (hfree : ∀ binding ∈ bindings, '\x00' ∉ binding.2) : (ofList bindings).NulFree := by
  intro name value hset
  obtain ⟨binding, hfound, rfl⟩ := Option.map_eq_some_iff.mp hset
  exact hfree binding (List.mem_of_find?_eq_some hfound)

/-- What is said of the runs on a system holds of the program's own, with the programs of the host. -/
theorem CommandLine.run_on_host_ends_or_escapes {host : Host} {argv : List Text} {session : Session}
    (hfree : ∀ binding ∈ host.bindings, '\x00' ∉ binding.2) :
    (∀ {failure}, (run host host.environment (.host host.bindings) argv session).1 = .error failure ↔
      Escape host host.environment (.host host.bindings) argv session failure) ∧
    ((∀ failure, ¬ Escape host host.environment (.host host.bindings) argv session failure) →
      ∃ ending, (run host host.environment (.host host.bindings) argv session).1 = .ok ending ∧
        ending.exitCode.toNat ∈ [0, 1, 2]) :=
  run_on_system_ends_or_escapes (Environment.nulFree_ofList hfree) (Shell.system host.bindings)

end AsmLens
