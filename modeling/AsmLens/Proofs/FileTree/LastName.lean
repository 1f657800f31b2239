import AsmLens.Proofs.FileTree.Resolve
import AsmLens.Proofs.PathText

/-!
# The last name of a resolved path

A resolution follows the names of a path one after another, so its last name is followed from where the
others lead. It is still the last one of what the path resolves to, unless it is a link there.
-/

namespace AsmLens

namespace Text

theorem cut_append (separator : Char) (first rest : Text) :
    cut separator (first ++ separator :: rest) = cut separator first ++ cut separator rest := by
  induction first with
  | nil => exact cut_cons_separator separator rest
  | cons c first ih =>
      rw [List.cons_append]
      by_cases heq : c = separator
      · rw [heq, cut_cons_separator, cut_cons_separator, ih, List.cons_append]
      · obtain ⟨piece, pieces, hpieces⟩ := List.exists_cons_of_ne_nil (cut_ne_nil separator first)
        rw [hpieces, List.cons_append] at ih
        rw [cut_cons_of_ne heq ih, cut_cons_of_ne heq hpieces, List.cons_append]

end Text

namespace Path

variable {path : Path}

theorem Normal.cut_join (hnormal : path.Normal) (hnames : path.names ≠ []) :
    Text.cut '/' (Text.join "/" path.names) = path.names :=
  Text.cut_join hnames fun name hname => (hnormal name hname).2.2

theorem head?_join_ne_slash {names : List Text} (hfree : ∀ name ∈ names, name ≠ [] ∧ '/' ∉ name) :
    (Text.join "/" names).head? ≠ some '/' := by
  cases names with
  | nil => simp
  | cons name rest =>
      obtain ⟨hempty, hslash⟩ := hfree name List.mem_cons_self
      obtain ⟨c, name, rfl⟩ := List.exists_cons_of_ne_nil hempty
      have hc : c ≠ '/' := (List.ne_of_not_mem_cons hslash).symm
      cases rest <;> simpa using hc

theorem Normal.head?_join_ne_slash (hnormal : path.Normal) :
    (Text.join "/" path.names).head? ≠ some '/' :=
  Path.head?_join_ne_slash fun name hname => ⟨(hnormal name hname).1, (hnormal name hname).2.2⟩

theorem rootOf_append (root : Root) {text : Text} (hhead : text.head? ≠ some '/') :
    rootOf (root.toText ++ text) = root := by
  have hnone : text.takeWhile (· = '/') = [] := by
    cases text with
    | nil => rfl
    | cons c rest => exact List.takeWhile_cons_of_neg (by simpa using hhead)
  have hslashes : ∀ c ∈ root.toText, decide (c = '/') = true := by
    cases root <;> simp [Root.toText]
  rw [rootOf, List.takeWhile_append_of_pos hslashes, hnone]
  cases root <;> rfl

/-- The slashes of a root cut off nothing but empty pieces. -/
theorem exists_cut_append (root : Root) (text : Text) :
    ∃ empties : List Text, (∀ piece ∈ empties, piece = []) ∧
      Text.cut '/' (root.toText ++ text) = empties ++ Text.cut '/' text := by
  cases root with
  | relative => exact ⟨[], by simp, rfl⟩
  | single => exact ⟨[[]], by simp, Text.cut_cons_separator '/' text⟩
  | double =>
      refine ⟨[[], []], by simp, ?_⟩
      change Text.cut '/' ('/' :: '/' :: text) = _
      rw [Text.cut_cons_separator, Text.cut_cons_separator]
      rfl

/-- A path in normal form is read back from its text. -/
theorem Normal.ofText_toText (hnormal : path.Normal) : ofText path.toText = path := by
  by_cases hnames : path.names = []
  · obtain ⟨root, names⟩ := path
    obtain rfl : names = [] := hnames
    cases root <;> rfl
  · have hfilter : path.names.filter isName = path.names := by
      rw [List.filter_eq_self]
      intro name hname
      simpa [isName] using ⟨(hnormal name hname).1, (hnormal name hname).2.1⟩
    obtain ⟨empties, hempties, hcut⟩ := exists_cut_append path.root (Text.join "/" path.names)
    have hnone : empties.filter isName = [] := by
      rw [List.filter_eq_nil_iff]
      intro piece hpiece
      rw [hempties piece hpiece]
      decide
    rw [ofText, toText_of_names_ne_nil hnames, rootOf_append _ hnormal.head?_join_ne_slash, hcut,
      hnormal.cut_join hnames, List.filter_append, hnone, hfilter]
    rfl

/-- The name behind the last slash of a text is the last one of its path. -/
theorem name_ofText_append (text : Text) {name : Text} (hname : isName name = true)
    (hslash : '/' ∉ name) : (ofText (text ++ '/' :: name)).name = name := by
  have hnames : (ofText (text ++ '/' :: name)).names =
      (Text.cut '/' text).filter isName ++ [name] := by
    rw [ofText, Text.cut_append, Text.cut_of_not_mem hslash, List.filter_append,
      List.filter_cons_of_pos hname, List.filter_nil]
  rw [Path.name, hnames, List.getLast?_concat, Option.getD_some]

/-- Two dots within a path leave its last name alone. -/
theorem name_collapse (hnames : path.names ≠ []) (hdots : path.name ≠ "..") :
    path.collapse.name = path.name := by
  rw [collapse, names_eq_concat hnames, List.foldl_concat, follow, if_neg hdots, Path.name, down,
    List.getLast?_concat, Option.getD_some]

/-- A path below another one keeps its last name. -/
theorem name_append {below : Path} (hnames : below.names ≠ []) :
    (path.append below).names ≠ [] ∧ (path.append below).name = below.name := by
  unfold append
  split
  · refine ⟨List.append_ne_nil_of_right_ne_nil _ hnames, ?_⟩
    rw [Path.name, List.getLast?_append_of_ne_nil _ hnames, Path.name]
  · exact ⟨hnames, rfl⟩

end Path

namespace FileTree

variable {tree : FileTree} {path : Path}

/-- The last name of a path is a link where the other names lead. -/
def EndsInLink (tree : FileTree) (path : Path) : Prop :=
  ∃ directory target, tree.follow path.parent.toText = .ok directory ∧
    tree.get? (tree.locationOf (directory.down path.name)) = some (.link target)

section

variable {follow : Links → Path → List Text → Resolution × Links} {links : Links} {here : Path}
  {name : Text} {names rest : List Text}

theorem resolveWith_empties {empties : List Text} (hempties : ∀ piece ∈ empties, piece = []) :
    resolveWith tree follow links here (empties ++ rest) =
      resolveWith tree follow links here rest := by
  induction empties with
  | nil => rfl
  | cons piece empties ih =>
      obtain ⟨rfl, hrest⟩ := List.forall_mem_cons.mp hempties
      rw [List.cons_append, resolveWith, if_pos (.inl rfl), ih hrest]

/-- Of the pieces of a path's text, the names alone are followed. -/
theorem resolveWith_cut_toText (hnormal : path.Normal) :
    resolveWith tree follow links here (Text.cut '/' path.toText) =
      resolveWith tree follow links here path.names := by
  by_cases hnames : path.names = []
  · obtain ⟨root, names⟩ := path
    obtain rfl : names = [] := hnames
    cases root <;> rfl
  · obtain ⟨empties, hempties, hcut⟩ := Path.exists_cut_append path.root (Text.join "/" path.names)
    rw [Path.toText_of_names_ne_nil hnames, hcut, resolveWith_empties hempties,
      hnormal.cut_join hnames]

/-- Where a text is looped, what is left of the names stands at its end. -/
theorem exists_attach_eq {last : Text} (hfree : ∀ piece ∈ rest ++ [last], piece ≠ [] ∧ '/' ∉ piece)
    (text : Text) :
    ∃ front, attach text (Text.join "/" (rest ++ [last])) = front ++ '/' :: last := by
  have hrelative : ¬ isAbsolute (Text.join "/" (rest ++ [last])) = true := by
    simpa [isAbsolute] using Path.head?_join_ne_slash hfree
  rw [attach, if_neg hrelative]
  by_cases hrest : rest = []
  · subst hrest
    rw [List.nil_append, Text.join_singleton]
    split
    · next hslash =>
        exact ⟨text.dropLast, by rw [← List.dropLast_append_getLast? _ hslash]; simp⟩
    · exact ⟨text, by simp⟩
  · rw [Text.join_concat hrest]
    split
    · exact ⟨text ++ Text.join "/" rest, by simp⟩
    · exact ⟨text ++ "/" ++ Text.join "/" rest, by simp⟩

/-- A resolution that comes to no path, and keeps nothing of what was left to follow. -/
def Resolution.Fails : Resolution → Prop
  | .refused | .nestedTooDeep => True
  | _ => False

/-- The last name is followed from where the other names lead. Where these lead nowhere, the resolution
fails there or keeps the last name. -/
theorem resolveWith_concat {last : Text}
    (hfree : ∀ piece ∈ names ++ [last], piece ≠ [] ∧ '/' ∉ piece) :
    (∃ path between, (resolveWith tree follow links here names).1 = .reached path ∧
      resolveWith tree follow links here (names ++ [last]) =
        resolveWith tree follow between path [last]) ∨
    (resolveWith tree follow links here (names ++ [last])).1.Fails ∨
    ∃ front, (resolveWith tree follow links here (names ++ [last])).1 =
      .looped (front ++ '/' :: last) := by
  -- A link is followed apart and left behind, so the induction is on the names alone.
  induction names generalizing links here with
  | nil => exact .inl ⟨here, links, rfl, rfl⟩
  | cons name rest ih =>
      have hrest := (List.forall_mem_cons.mp hfree).2
      rw [List.cons_append, resolveWith_cons, resolveWith_cons]
      cases tree.turn links here name with
      | leads path => exact ih hrest
      | refused => exact .inr (.inl trivial)
      | looped there =>
          obtain ⟨front, hfront⟩ := exists_attach_eq hrest there.toText
          exact .inr (.inr ⟨front, congrArg Resolution.looped hfront⟩)
      | opens there target =>
          simp only
          generalize follow ((there, none) :: links) (start here target) (Text.cut '/' target) = result
          obtain ⟨resolution, between⟩ := result
          cases resolution with
          | reached path => exact ih hrest
          | refused => exact .inr (.inl trivial)
          | looped text =>
              obtain ⟨front, hfront⟩ := exists_attach_eq hrest text
              exact .inr (.inr ⟨front, congrArg Resolution.looped hfront⟩)
          | nestedTooDeep => exact .inr (.inl trivial)

/-- A name that is no link is followed as it is. -/
theorem resolveWith_last (follow : Links → Path → List Text → Resolution × Links) (links : Links)
    (hproper : name ≠ "" ∧ name ≠ "." ∧ name ≠ "..")
    (hlink : ∀ target, tree.get? (tree.locationOf (here.down name)) ≠ some (.link target)) :
    (resolveWith tree follow links here [name]).1 = .reached (here.down name) ∨
      (resolveWith tree follow links here [name]).1 = .refused := by
  obtain ⟨hempty, hdot, hdots⟩ := hproper
  have htarget : tree.target? (here.down name) = none := target?_eq_none hlink
  rw [resolveWith, if_neg (not_or.mpr ⟨hempty, hdot⟩), if_neg hdots]
  split
  · exact .inr rfl
  · simp only [htarget]
    exact .inl rfl

end

/-- How the names of a path are followed. -/
def resolution (tree : FileTree) (path : Path) : Resolution :=
  (resolveWith tree (opening tree (linkRoom)) []
    (start ⟨.relative, []⟩ path.toText) path.names).1

theorem follow_eq_resolution (hnormal : path.Normal) :
    tree.follow path.toText =
      match tree.resolution path with
      | .reached path => .ok path
      | .refused => .error .nulByte
      | .looped text => .ok (Path.ofText text)
      | .nestedTooDeep => .error (.nestedTooDeep .links) := by
  have hfollowed : (tree.resolveFrom (linkRoom) []
      (start ⟨.relative, []⟩ path.toText) (Text.cut '/' path.toText)).1 = tree.resolution path := by
    rw [resolveFrom_eq_resolveWith, resolveWith_cut_toText hnormal, resolution]
  cases hresolution : tree.resolution path <;> simp only [FileTree.follow, hfollowed, hresolution]

theorem start_parent (hnormal : path.Normal) (here : Path) :
    start here path.parent.toText = start here path.toText := by
  rw [start, start, hnormal.parent.isAbsolute_toText, hnormal.isAbsolute_toText]
  rfl

/-- The last name of a path that can be followed is the last one of where it leads, unless it is a
link. -/
theorem name_of_follow (hnormal : path.Normal) (hnames : path.names ≠ []) (hdots : path.name ≠ "..")
    (hlink : ¬ tree.EndsInLink path) {followed : Path}
    (hfollow : tree.follow path.toText = .ok followed) :
    followed.names ≠ [] ∧ followed.name = path.name := by
  have hwhole := Path.names_eq_concat hnames
  have hfree : ∀ name ∈ path.parent.names ++ [path.name], name ≠ [] ∧ '/' ∉ name := by
    rw [← hwhole]
    exact fun name hname => ⟨(hnormal name hname).1, (hnormal name hname).2.2⟩
  obtain ⟨hempty, hdot, hslash⟩ : path.name ≠ [] ∧ path.name ≠ "." ∧ '/' ∉ path.name :=
    hnormal path.name (by rw [hwhole]; simp)
  rw [follow_eq_resolution hnormal, resolution, hwhole] at hfollow
  rcases resolveWith_concat hfree with ⟨directory, between, hparent, hlast⟩ | hfails | ⟨front, hlooped⟩
  · have hdirectory : tree.follow path.parent.toText = .ok directory := by
      rw [follow_eq_resolution hnormal.parent, resolution, start_parent hnormal, hparent]
    have hnotLink : ∀ target,
        tree.get? (tree.locationOf (directory.down path.name)) ≠ some (.link target) :=
      fun target hentry => hlink ⟨directory, target, hdirectory, hentry⟩
    rw [hlast] at hfollow
    rcases resolveWith_last (opening tree (linkRoom)) between
      ⟨hempty, hdot, hdots⟩ hnotLink with hreached | hrefused
    · rw [hreached] at hfollow
      obtain rfl := Except.ok.inj hfollow
      exact ⟨by simp [Path.down], by simp [Path.name, Path.down]⟩
    · rw [hrefused] at hfollow
      cases hfollow
  · revert hfails hfollow
    cases (resolveWith tree (opening tree linkRoom) [] (start ⟨.relative, []⟩ path.toText)
      (path.parent.names ++ [path.name])).1 <;> simp [Resolution.Fails]
  · -- A loop keeps the text of all names that were left, and with it the last one.
    rw [hlooped] at hfollow
    obtain rfl := Except.ok.inj hfollow
    have hisName : Path.isName path.name = true := by simpa [Path.isName] using ⟨hempty, hdot⟩
    have hname := Path.name_ofText_append front hisName hslash
    refine ⟨fun hnone => hempty ?_, hname⟩
    rw [← hname, Path.name, hnone]
    rfl

theorem name_of_resolve (hnormal : path.Normal) (hnames : path.names ≠ []) (hdots : path.name ≠ "..")
    (hlink : ¬ tree.EndsInLink path) {input : Path} (hinput : tree.resolve path = .ok input) :
    input.name = path.name := by
  obtain ⟨followed, hfollow, rfl⟩ := resolve_eq_ok hinput
  obtain ⟨hfollowed, hname⟩ := name_of_follow hnormal hnames hdots hlink hfollow
  obtain ⟨happended, hsame⟩ :=
    @Path.name_append (Path.ofText (absolute tree.workingDirectory)) _ hfollowed
  rw [Path.name_collapse happended (by rw [hsame, hname]; exact hdots), hsame, hname]

end FileTree

end AsmLens
