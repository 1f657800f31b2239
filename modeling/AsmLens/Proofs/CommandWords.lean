import AsmLens.CompileCommand
import AsmLens.Disassembly.Run
import AsmLens.Proofs.Settings
import AsmLens.Proofs.ShellWords

/-!
# The words that reach the programs

A command line is put together as one text and cut into words again before a program runs. The words of
the configured parts come back as they are configured, and each path comes back as one word.
-/

namespace AsmLens

namespace ShellWords

/-- Empty parts hold no words, so leaving them out changes none. -/
theorem forall₂_filter_blank {parts : List Text} {words : List (List Text)}
    (hparts : List.Forall₂ (fun part own => split part = .ok own) parts words)
    (hblank : ∀ part ∈ parts, part.strip = [] → part = []) :
    ∃ kept, List.Forall₂ (fun part own => split part = .ok own)
      (parts.filter fun part => !part.strip.isEmpty) kept ∧ kept.flatten = words.flatten := by
  induction hparts with
  | nil => exact ⟨[], .nil, rfl⟩
  | @cons part own parts words hpart hrest ih =>
      obtain ⟨kept, hkept, hflatten⟩ := ih fun other hother =>
        hblank other (List.mem_cons_of_mem part hother)
      by_cases hempty : part.strip = []
      · have hnone : own = [] := by
          rw [hblank part List.mem_cons_self hempty, split_nil] at hpart
          exact (Except.ok.inj hpart).symm
        refine ⟨kept, ?_, ?_⟩
        · rwa [List.filter_cons_of_neg (by simp [hempty])]
        · rw [hflatten, hnone]
          rfl
      · refine ⟨own :: kept, ?_, ?_⟩
        · rw [List.filter_cons_of_pos (by simp [hempty])]
          exact .cons hpart hkept
        · rw [List.flatten_cons, List.flatten_cons, hflatten]

theorem split_lineOf {environment : Environment} {toolchain : Toolchain}
    (hread : Toolchain.ofEnvironment environment = .ok toolchain) {language : Language}
    {compiler flags : List Text} (hcompiler : split (toolchain.compiler language) = .ok compiler)
    (hflags : split (toolchain.flags language) = .ok flags) (input output : Text) :
    split (CompileCommand.lineOf toolchain language input output) =
      .ok (compiler ++ flags ++ (["-g", "-c", "-o", output, input] : List Text)) := by
  have hparts : List.Forall₂ (fun part own => split part = .ok own)
      [toolchain.compiler language, toolchain.flags language, "-g", "-c", "-o", quote output,
        quote input]
      [compiler, flags, ["-g"], ["-c"], ["-o"], [output], [input]] :=
    .cons hcompiler <| .cons hflags <| .cons rfl <| .cons rfl <| .cons rfl <|
      .cons (split_quote output) <| .cons (split_quote input) .nil
  have hblank : ∀ part ∈ [toolchain.compiler language, toolchain.flags language, "-g", "-c", "-o",
      quote output, quote input], part.strip = [] → part = [] := by
    intro part hpart hempty
    simp only [List.mem_cons, List.not_mem_nil, or_false] at hpart
    rcases hpart with rfl | rfl | rfl | rfl | rfl | rfl | rfl
    · exact absurd hempty (Toolchain.strip_compiler_ne_nil hread language)
    · exact Toolchain.flags_eq_nil_of_strip hread hempty
    · exact absurd hempty (by decide)
    · exact absurd hempty (by decide)
    · exact absurd hempty (by decide)
    · exact absurd hempty (strip_quote_ne_nil output)
    · exact absurd hempty (strip_quote_ne_nil input)
  obtain ⟨kept, hkept, hflatten⟩ := forall₂_filter_blank hparts hblank
  rw [CompileCommand.lineOf, split_join hkept, hflatten]
  simp

theorem split_commandLineOf {binary : Text} {words : List Text} (hbinary : split binary = .ok words)
    (object : Path) :
    split (Disassembly.commandLineOf object binary) =
      .ok (words ++ (["-d", "-M", "att", "-Sl", "--no-show-raw-insn", object.toText] : List Text)) := by
  have hparts : List.Forall₂ (fun part own => split part = .ok own)
      (binary :: Disassembly.flags ++ [quote object.toText])
      [words, ["-d"], ["-M"], ["att"], ["-Sl"], ["--no-show-raw-insn"], [object.toText]] :=
    .cons hbinary <| .cons rfl <| .cons rfl <| .cons rfl <| .cons rfl <| .cons rfl <|
      .cons (split_quote object.toText) .nil
  rw [Disassembly.commandLineOf, split_join hparts]
  simp

/-- The words of a command line are those of its configured parts, and after them the fixed ones with
the paths as they are, whatever characters the paths hold. -/
theorem split_commandLines :
    (∀ {environment toolchain}, Toolchain.ofEnvironment environment = .ok toolchain →
      ∀ {language compiler flags}, split (toolchain.compiler language) = .ok compiler →
        split (toolchain.flags language) = .ok flags →
        ∀ input output, split (CompileCommand.lineOf toolchain language input output) =
          .ok (compiler ++ flags ++ (["-g", "-c", "-o", output, input] : List Text))) ∧
    (∀ {binary words}, split binary = .ok words →
      ∀ object, split (Disassembly.commandLineOf object binary) =
        .ok (words ++ (["-d", "-M", "att", "-Sl", "--no-show-raw-insn", object.toText] : List Text))) := by
  constructor
  · intro environment toolchain hread language compiler flags hcompiler hflags input output
    exact split_lineOf hread hcompiler hflags input output
  · intro binary words hbinary object
    exact split_commandLineOf hbinary object

theorem split_commandLines_of_hostile_paths :
    split (CompileCommand.lineOf { cCompiler := "ccache cc", cFlags := "-I 'a b'" } .c "it's $x;\n.c"
        "\"\\") =
      .ok (["ccache", "cc", "-I", "a b", "-g", "-c", "-o", "\"\\", "it's $x;\n.c"].map String.toList) ∧
    split (Disassembly.commandLineOf (Path.ofText "a b/it's") "llvm objdump") =
      .ok (["llvm", "objdump", "-d", "-M", "att", "-Sl", "--no-show-raw-insn", "a b/it's"].map
        String.toList) := by
  have hread : Toolchain.ofEnvironment
      (Environment.ofList [("CC", " ccache cc"), ("CFLAGS", "-I 'a b'\n")]) =
        .ok { cCompiler := "ccache cc", cFlags := "-I 'a b'" } := rfl
  have hcompiler : split (Toolchain.compiler { cCompiler := "ccache cc", cFlags := "-I 'a b'" } .c) =
      .ok ["ccache", "cc"] := rfl
  have hflags : split (Toolchain.flags { cCompiler := "ccache cc", cFlags := "-I 'a b'" } .c) =
      .ok ["-I", "a b"] := rfl
  have hbinary : split "llvm objdump" = .ok ["llvm", "objdump"] := rfl
  exact ⟨split_commandLines.1 hread hcompiler hflags _ _, split_commandLines.2 hbinary _⟩

end ShellWords

end AsmLens
