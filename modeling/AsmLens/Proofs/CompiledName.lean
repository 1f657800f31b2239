import AsmLens.Proofs.FileTree.LastName
import AsmLens.Proofs.StaleObject

/-!
# The name that a source file is compiled under

The compiler is given the resolved path of the source file. Its language and the marker of its lines are
taken from the path that was asked for, so they are those of the compiled file where that path does not
end in a link.
-/

namespace AsmLens

namespace Path

variable {path : Path}

/-- The last name of a path is the last one of its text. -/
theorem name_ofText_toText (hnames : path.names ≠ []) (hname : isName path.name = true)
    (hslash : '/' ∉ path.name) : (ofText path.toText).name = path.name := by
  obtain ⟨empties, _, hcut⟩ := exists_cut_append path.root (Text.join "/" path.names)
  obtain ⟨pieces, hpieces⟩ : ∃ pieces, Text.cut '/' (Text.join "/" path.names) =
      pieces ++ [path.name] := by
    rw [names_eq_concat hnames]
    by_cases hparent : path.parent.names = []
    · exact ⟨[], by rw [hparent, List.nil_append, Text.join_singleton, Text.cut_of_not_mem hslash]⟩
    · refine ⟨Text.cut '/' (Text.join "/" path.parent.names), ?_⟩
      rw [Text.join_concat hparent, List.append_assoc, ← Text.cut_of_not_mem hslash]
      exact Text.cut_append '/' _ _
  have hofText : (ofText path.toText).names = (empties ++ pieces).filter isName ++ [path.name] := by
    rw [ofText, toText_of_names_ne_nil hnames, hcut, hpieces, ← List.append_assoc,
      List.filter_append, List.filter_cons_of_pos hname, List.filter_nil]
  rw [name, hofText, List.getLast?_concat, Option.getD_some]

end Path

namespace Language

/-- Two dots have no suffix, and neither has the lack of a name. -/
theorem proper_of_ofFile? {path : Text} {language : Language} (hlanguage : ofFile? path = some language) :
    (Path.ofText path).name ≠ [] ∧ (Path.ofText path).name ≠ ".." := by
  have hsuffix : hasSuffix (Path.ofText path).name language = true := List.find?_some hlanguage
  constructor <;> intro hname <;> rw [hname] at hsuffix
  · cases language <;> exact absurd hsuffix (by decide)
  · cases language <;> exact absurd hsuffix (by decide)

theorem ofFile?_eq_of_name_eq {path other : Text}
    (hname : (Path.ofText path).name = (Path.ofText other).name) : ofFile? path = ofFile? other := by
  rw [ofFile?, ofFile?, hname]

end Language

theorem ListingMatch.markerOf_eq_iff {path other : Path} {line : Int} :
    markerOf path line = markerOf other line ↔ path.name = other.name := by
  simp [markerOf]

namespace Inspection

variable {runner : Runner} {system : Text} {toolchain : Toolchain} {location : SourceLocation}
  {object : Path} {session : Session}

/-- A compiler is called for a file in some language only, and after its path was resolved. -/
theorem exists_resolve_of_first_call {call : Call}
    (hcall : (run runner system toolchain location object session).2.calls[session.calls.length]? =
      some call) :
    ∃ language input, Language.ofFile? location.path.toText = some language ∧
      session.tree.resolve location.path = .ok input := by
  cases hlanguage : Language.ofFile? location.path.toText with
  | none =>
      obtain ⟨final, hrun, hcalls, _⟩ :=
        @run_of_unsupported runner system toolchain location object session hlanguage
      rw [hrun, hcalls, List.getElem?_eq_none (Nat.le_refl _)] at hcall
      contradiction
  | some language =>
      cases hinput : session.tree.resolve location.path with
      | error failure =>
          rw [run_of_unresolved hlanguage hinput, List.getElem?_eq_none (Nat.le_refl _)] at hcall
          contradiction
      | ok input => exact ⟨language, input, rfl, rfl⟩

/-- A source path that does not end in a link is resolved to one with the same name. -/
theorem name_of_resolved {source : Text} {language : Language} {tree : FileTree} {input : Path}
    (hlanguage : Language.ofFile? (Path.ofText source).toText = some language)
    (hinput : tree.resolve (Path.ofText source) = .ok input)
    (hlink : ¬ tree.EndsInLink (Path.ofText source)) :
    (Path.ofText input.toText).name = (Path.ofText source).name := by
  have hnormal := Path.normal_ofText source
  obtain ⟨hempty, hdots⟩ := Language.proper_of_ofFile? hlanguage
  rw [hnormal.ofText_toText] at hempty hdots
  have hnames : (Path.ofText source).names ≠ [] := fun hnone => hempty (by rw [Path.name, hnone]; rfl)
  have hname := FileTree.name_of_resolve hnormal hnames hdots hlink hinput
  obtain ⟨_, hdot, hslash⟩ := hnormal (Path.ofText source).name
    (by rw [Path.names_eq_concat hnames]; simp)
  have hinputNames : input.names ≠ [] := fun hnone =>
    hempty (by rw [← hname, Path.name, hnone]; rfl)
  have hisName : Path.isName input.name = true := by
    rw [hname]
    simpa [Path.isName] using ⟨hempty, hdot⟩
  rw [Path.name_ofText_toText hinputNames hisName (by rwa [hname]), hname]

/-- The compiler of the language that the asked path has is run on the resolved path. The marker is the
one of the compiled file exactly if both have one name, and a path that does not end in a link is
resolved to one with the same name, and so with the same marker and in the same language. -/
theorem compiled_under_asked_name {source : Text} {line : Int}
    (hread : SourceLocation.read session.tree (Path.ofText source) line = .ok location) {call : Call}
    (hcall : (run runner system toolchain location object session).2.calls[session.calls.length]? =
      some call) :
    ∃ (input : Path) (command : CompileCommand),
      session.tree.resolve (Path.ofText source) = .ok input ∧
      Language.ofFile? location.path.toText = some command.language ∧
      command = .make toolchain command.language input.toText object.toText ∧
      ShellWords.split command.line = .ok call.argv ∧
      (ListingMatch.markerOf command.input location.line =
          ListingMatch.markerOf location.path location.line ↔
        command.input.name = (Path.ofText source).name) ∧
      (¬ session.tree.EndsInLink (Path.ofText source) →
        ListingMatch.markerOf command.input location.line =
          ListingMatch.markerOf location.path location.line ∧
        Language.ofFile? command.input.toText = some command.language) := by
  obtain ⟨hpath, _⟩ := SourceLocation.eq_of_read hread
  obtain ⟨language, input, hlanguage, hinput⟩ := exists_resolve_of_first_call hcall
  obtain ⟨argv, prepared, _, hargv, rfl⟩ := exists_of_first_call hlanguage hinput hcall
  rw [hpath] at hlanguage hinput ⊢
  have hmarkers : ListingMatch.markerOf (Path.ofText input.toText) location.line =
      ListingMatch.markerOf (Path.ofText source) location.line ↔
        (Path.ofText input.toText).name = (Path.ofText source).name := ListingMatch.markerOf_eq_iff
  refine ⟨input, .make toolchain language input.toText object.toText, hinput, hlanguage, rfl, hargv,
    hmarkers, fun hlink => ?_⟩
  have hname := name_of_resolved hlanguage hinput hlink
  have hnames : (Path.ofText (Path.ofText input.toText).toText).name =
      (Path.ofText (Path.ofText source).toText).name := by
    rw [(Path.normal_ofText input.toText).ofText_toText, (Path.normal_ofText source).ofText_toText,
      hname]
  exact ⟨hmarkers.mpr hname,
    (Language.ofFile?_eq_of_name_eq hnames).trans hlanguage⟩

/-- A tree with a source file that is reached through a link to its directory. -/
def linkedDirectoryTree : FileTree :=
  ⟨["w"], [(["d", "w"], .link "src"), (["b.cpp", "src", "w"], .file [] false),
    (["src", "w"], .directory), (["w"], .directory)]⟩

/-- A link on the way to the source file is no hindrance. -/
theorem compiled_under_asked_name_of_linked_directory :
    linkedDirectoryTree.resolve (Path.ofText "d/b.cpp") = .ok (Path.ofText "/w/src/b.cpp") ∧
    ListingMatch.markerOf (Path.ofText "/w/src/b.cpp") 1 =
      ListingMatch.markerOf (Path.ofText "d/b.cpp") 1 ∧
    Language.ofFile? (Path.ofText "/w/src/b.cpp").toText = some .cpp := by
  have hread : SourceLocation.read linkedDirectoryTree (Path.ofText "d/b.cpp") 1 =
      .ok ⟨Path.ofText "d/b.cpp", 1, []⟩ := by decide +kernel
  have hcall : (run .idle "Linux" {} ⟨Path.ofText "d/b.cpp", 1, []⟩ (Path.ofText "x.o")
      (.start linkedDirectoryTree .info)).2.calls[0]? =
        some ⟨["c++", "-march=native", "-g", "-c", "-o", "x.o", "/w/src/b.cpp"], true,
          linkedDirectoryTree⟩ := by decide +kernel
  have hlink : ¬ linkedDirectoryTree.EndsInLink (Path.ofText "d/b.cpp") := by
    rintro ⟨directory, target, hfollow, hentry⟩
    have hdirectory : linkedDirectoryTree.follow (Path.ofText "d/b.cpp").parent.toText =
        .ok (Path.ofText "src") := by decide +kernel
    obtain rfl := Except.ok.inj (hdirectory.symm.trans hfollow)
    cases hentry
  have hresolved : linkedDirectoryTree.resolve (Path.ofText "d/b.cpp") =
      .ok (Path.ofText "/w/src/b.cpp") := by decide +kernel
  obtain ⟨input, command, hinput, hlanguage, hcommand, _, _, hsame⟩ :=
    @compiled_under_asked_name .idle "Linux" {} _ (Path.ofText "x.o")
      (.start linkedDirectoryTree .info) "d/b.cpp" 1 hread _ hcall
  obtain rfl := Except.ok.inj (hresolved.symm.trans hinput)
  obtain ⟨hmarker, hfile⟩ := hsame hlink
  have hcpp : Language.cpp = command.language := Option.some.inj hlanguage
  rw [hcommand] at hmarker hfile
  exact ⟨hresolved, hmarker, hcpp ▸ hfile⟩

/-- A tree where a source file in one language is a link to one in another. -/
def linkedSourceTree : FileTree :=
  ⟨["w"], [(["a.c", "w"], .link "b.cpp"), (["b.cpp", "w"], .file [] false), (["w"], .directory)]⟩

/-- A link is compiled as what it leads to, by the compiler of the link and with the link's marker. -/
theorem linked_source_is_compiled_under_other_name :
    SourceLocation.read linkedSourceTree (Path.ofText "a.c") 1 = .ok ⟨Path.ofText "a.c", 1, []⟩ ∧
    (run .idle "Linux" {} ⟨Path.ofText "a.c", 1, []⟩ (Path.ofText "x.o")
      (.start linkedSourceTree .info)).2.calls[0]? =
        some ⟨["cc", "-march=native", "-g", "-c", "-o", "x.o", "/w/b.cpp"], true,
          linkedSourceTree⟩ ∧
    Language.ofFile? "a.c" = some .c ∧ Language.ofFile? "/w/b.cpp" = some .cpp ∧
    ListingMatch.markerOf (Path.ofText "/w/b.cpp") 1 ≠ ListingMatch.markerOf (Path.ofText "a.c") 1 :=
  by decide +kernel

end Inspection

end AsmLens
