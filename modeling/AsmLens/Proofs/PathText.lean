import AsmLens.FileTree.Walk
import AsmLens.Path
import Mathlib.Data.List.Basic

/-!
# Paths as texts

The names of a path in normal form are the steps of its text, and a walk along the text of its parent
takes the same steps but the last.
-/

namespace AsmLens

theorem Text.join_concat {pieces : List Text} (hpieces : pieces ≠ []) (separator last : Text) :
    join separator (pieces ++ [last]) = join separator pieces ++ separator ++ last := by
  induction pieces with
  | nil => contradiction
  | cons piece rest ih =>
      cases rest with
      | nil => simp
      | cons second rest =>
          rw [List.cons_append, List.cons_append, join_cons_cons, ← List.cons_append,
            ih (List.cons_ne_nil _ _), join_cons_cons]
          simp

namespace Path

/-- No name is empty, a single dot, or holds a slash. -/
def Normal (path : Path) : Prop :=
  ∀ name ∈ path.names, name ≠ [] ∧ name ≠ "." ∧ '/' ∉ name

theorem normal_ofText (text : Text) : (ofText text).Normal := by
  intro name hname
  obtain ⟨hpiece, hisName⟩ := List.mem_filter.mp hname
  simp only [isName, Bool.and_eq_true, decide_eq_true_eq] at hisName
  exact ⟨hisName.1, hisName.2, Text.not_mem_of_mem_cut hpiece⟩

theorem mem_join_iff {separator : Text} {pieces : List Text} {c : Char} (hc : c ∉ separator) :
    c ∈ Text.join separator pieces ↔ ∃ piece ∈ pieces, c ∈ piece := by
  induction pieces with
  | nil => simp
  | cons first pieces ih =>
      cases pieces with
      | nil => simp
      | cons second pieces =>
          rw [Text.join_cons_cons, List.mem_append, List.mem_append, ih]
          simp [hc]

variable {path : Path}

/-- Dots and slashes apart, a path's text has the characters of its names. -/
theorem mem_toText_iff {c : Char} (hdot : c ≠ '.') (hslash : c ≠ '/') :
    c ∈ path.toText ↔ ∃ name ∈ path.names, c ∈ name := by
  have hjoin : c ∈ Text.join "/" path.names ↔ ∃ name ∈ path.names, c ∈ name :=
    mem_join_iff (by simpa using hslash)
  obtain ⟨root, names⟩ := path
  cases names with
  | nil => cases root <;> simp [toText, Root.toText, hdot, hslash]
  | cons name names => cases root <;> simpa [toText, Root.toText, hslash] using hjoin

theorem Normal.parent (hnormal : path.Normal) : path.parent.Normal :=
  fun name hname => hnormal name (List.dropLast_subset _ hname)

theorem toText_of_names_ne_nil (hnames : path.names ≠ []) :
    path.toText = path.root.toText ++ Text.join "/" path.names := by
  obtain ⟨root, names⟩ := path
  cases names with
  | nil => contradiction
  | cons name rest => cases root <;> rfl

theorem names_eq_concat (hnames : path.names ≠ []) :
    path.names = path.parent.names ++ [path.name] := by
  obtain ⟨last, hlast⟩ := Option.ne_none_iff_exists'.mp (List.getLast?_eq_none_iff.not.mpr hnames)
  rw [Path.name, hlast, Option.getD_some]
  exact (List.dropLast_append_getLast? last hlast).symm

/-- The text of a path goes on from that of its parent. -/
theorem toText_eq_parent_append (hparent : path.parent.names ≠ []) :
    path.toText = path.parent.toText ++ '/' :: path.name := by
  have hnames : path.names ≠ [] := fun hnone => hparent (by rw [parent, hnone]; rfl)
  have hroot : path.parent.root = path.root := rfl
  rw [toText_of_names_ne_nil hnames, toText_of_names_ne_nil hparent, names_eq_concat hnames,
    Text.join_concat hparent, hroot]
  simp

theorem getLast?_join_ne_slash {names : List Text}
    (hfree : ∀ name ∈ names, name ≠ [] ∧ '/' ∉ name) (hnames : names ≠ []) :
    Text.join "/" names ≠ [] ∧ (Text.join "/" names).getLast? ≠ some '/' := by
  induction names with
  | nil => contradiction
  | cons name rest ih =>
      obtain ⟨⟨hempty, hslash⟩, hrest⟩ := List.forall_mem_cons.mp hfree
      cases rest with
      | nil =>
          rw [Text.join_singleton]
          exact ⟨hempty, fun hlast => hslash (List.mem_of_getLast? hlast)⟩
      | cons second rest =>
          obtain ⟨hne, hlast⟩ := ih hrest (List.cons_ne_nil _ _)
          rw [Text.join_cons_cons, List.getLast?_append_of_ne_nil _ hne]
          exact ⟨List.append_ne_nil_of_right_ne_nil _ hne, hlast⟩

theorem Normal.steps_toText (hnormal : path.Normal) (hnames : path.names ≠ []) :
    FileTree.steps path.toText = path.names := by
  have hcut : Text.cut '/' (Text.join "/" path.names) = path.names :=
    Text.cut_join hnames fun name hname => (hnormal name hname).2.2
  have hfilter : path.names.filter (· ≠ []) = path.names := by
    rw [List.filter_eq_self]
    intro name hname
    simpa using (hnormal name hname).1
  obtain ⟨hne, hlast⟩ := getLast?_join_ne_slash
    (fun name hname => ⟨(hnormal name hname).1, (hnormal name hname).2.2⟩) hnames
  rw [FileTree.steps, toText_of_names_ne_nil hnames, List.getLast?_append_of_ne_nil _ hne, if_neg hlast,
    List.append_nil]
  cases path.root with
  | relative => exact (congrArg _ hcut).trans hfilter
  | single =>
      change ((Text.cut '/' ('/' :: Text.join "/" path.names)).filter (· ≠ [])) = path.names
      rw [Text.cut_cons_separator, hcut]
      exact hfilter
  | double =>
      change ((Text.cut '/' ('/' :: '/' :: Text.join "/" path.names)).filter (· ≠ [])) = path.names
      rw [Text.cut_cons_separator, Text.cut_cons_separator, hcut]
      exact hfilter

/-- A path without names is a single step to where it starts. -/
theorem steps_toText_of_names_eq_nil (hnames : path.names = []) :
    ∃ name : Text, (name = "." ∨ name = "/") ∧ FileTree.steps path.toText = [name] := by
  obtain ⟨root, names⟩ := path
  subst hnames
  cases root with
  | relative => exact ⟨_, .inl rfl, rfl⟩
  | single => exact ⟨_, .inr rfl, rfl⟩
  | double => exact ⟨_, .inr rfl, rfl⟩

theorem Normal.dropLast_steps_toText (hnormal : path.Normal) :
    (FileTree.steps path.toText).dropLast = path.parent.names := by
  by_cases hnames : path.names = []
  · obtain ⟨name, _, hsteps⟩ := steps_toText_of_names_eq_nil hnames
    rw [hsteps, Path.parent, hnames]
    rfl
  · rw [hnormal.steps_toText hnames]
    rfl

theorem Normal.toText_ne_nil (hnormal : path.Normal) : path.toText ≠ [] := by
  by_cases hnames : path.names = []
  · intro hempty
    obtain ⟨name, _, hsteps⟩ := steps_toText_of_names_eq_nil hnames
    rw [hempty] at hsteps
    exact List.cons_ne_nil _ _ hsteps.symm
  · intro hempty
    have hsteps := hnormal.steps_toText hnames
    rw [hempty] at hsteps
    exact hnames hsteps.symm

/-- The text of a path says by its first character whether the path has a root. -/
theorem Normal.isAbsolute_toText (hnormal : path.Normal) :
    FileTree.isAbsolute path.toText = decide (path.root ≠ .relative) := by
  obtain ⟨root, names⟩ := path
  cases names with
  | nil => cases root <;> rfl
  | cons name rest =>
      rw [toText_of_names_ne_nil (List.cons_ne_nil _ _)]
      cases root with
      | relative =>
          obtain ⟨hempty, -, hslash⟩ := hnormal name List.mem_cons_self
          cases name with
          | nil => contradiction
          | cons c name =>
              have hc : c ≠ '/' := (List.ne_of_not_mem_cons hslash).symm
              cases rest <;> simp [FileTree.isAbsolute, Root.toText, hc]
      | single => rfl
      | double => rfl

theorem Normal.origin_parent (hnormal : path.Normal) (directory : Location) :
    FileTree.origin directory path.parent.toText = FileTree.origin directory path.toText := by
  rw [FileTree.origin, FileTree.origin, hnormal.parent.isAbsolute_toText, hnormal.isAbsolute_toText]
  rfl

end Path

end AsmLens
