import AsmLens.Proofs.CompiledName

/-!
# The language of a file by the suffix of its name

The text of a path is a text that ends in the last name, and slashes and single dots after it. The
language is the one with a suffix at the end of this name, where a line feed after the suffix does not
count. No suffix is the end of another language's, so the order of the languages is of no account.
-/

namespace AsmLens

namespace Path

/-- A text is the name, or has a slash before the name at its end. -/
structure EndsInName (text name : Text) : Prop where
  ne_nil : name ≠ []
  ne_dot : name ≠ "."
  slash_not_mem : '/' ∉ name
  text_eq : text = name ∨ ∃ front, text = front ++ '/' :: name

/-- What does not count behind the last name: slashes, each with nothing or a single dot after it. -/
inductive Trailing : Text → Prop
  | nil : Trailing []
  | slash {rest : Text} (hrest : Trailing rest) : Trailing ('/' :: rest)
  | dot {rest : Text} (hrest : Trailing rest) : Trailing ('/' :: '.' :: rest)

variable {text name after : Text} {pieces : List Text}

theorem isName_iff : isName name = true ↔ name ≠ [] ∧ name ≠ "." := by
  simp [isName]

theorem EndsInName.isName (hends : EndsInName text name) : Path.isName name = true :=
  isName_iff.mpr ⟨hends.ne_nil, hends.ne_dot⟩

theorem EndsInName.exists_cut (hends : EndsInName text name) :
    ∃ pieces, Text.cut '/' text = pieces ++ [name] := by
  have hname := Text.cut_of_not_mem hends.slash_not_mem
  rcases hends.text_eq with rfl | ⟨front, rfl⟩
  · exact ⟨[], hname⟩
  · exact ⟨Text.cut '/' front, by rw [Text.cut_append, hname]⟩

/-- No piece behind the last name is a name. -/
theorem Trailing.exists_cut (htrailing : Trailing after) :
    ∃ pieces, pieces.filter Path.isName = [] ∧
      ∀ text, Text.cut '/' (text ++ after) = Text.cut '/' text ++ pieces := by
  induction htrailing with
  | nil => exact ⟨[], rfl, by simp⟩
  | slash hrest ih =>
      obtain ⟨pieces, hpieces, hcut⟩ := ih
      refine ⟨[] :: pieces, by rwa [List.filter_cons_of_neg (by decide)], fun text => ?_⟩
      rw [Text.cut_append]
      exact congrArg _ (hcut [])
  | dot hrest ih =>
      obtain ⟨pieces, hpieces, hcut⟩ := ih
      refine ⟨"." :: pieces, by rwa [List.filter_cons_of_neg (by decide)], fun text => ?_⟩
      rw [Text.cut_append]
      exact congrArg _ (hcut ".")

theorem trailing_of_filter_eq_nil (hpieces : pieces.filter isName = []) :
    Trailing (pieces.flatMap ('/' :: ·)) := by
  induction pieces with
  | nil => exact .nil
  | cons piece pieces ih =>
      rw [List.filter_eq_nil_iff] at hpieces
      obtain ⟨hpiece, hrest⟩ := List.forall_mem_cons.mp hpieces
      have hafter := ih (List.filter_eq_nil_iff.mpr hrest)
      rw [isName_iff, not_and_or, not_not, not_not] at hpiece
      rcases hpiece with rfl | rfl
      · exact hafter.slash
      · exact hafter.dot

theorem join_cons (piece : Text) (pieces : List Text) :
    Text.join "/" (piece :: pieces) = piece ++ pieces.flatMap ('/' :: ·) := by
  induction pieces generalizing piece with
  | nil => simp
  | cons second pieces ih =>
      rw [Text.join_cons_cons, ih, List.flatMap_cons, List.append_assoc]
      rfl

/-- A piece among others stands at the beginning of the joined text or behind a slash. -/
theorem join_append_cons (before : List Text) (piece : Text) (pieces : List Text) :
    ∃ front, Text.join "/" (before ++ piece :: pieces) = front ++ pieces.flatMap ('/' :: ·) ∧
      (front = piece ∨ ∃ other, front = other ++ '/' :: piece) := by
  cases before with
  | nil => exact ⟨piece, join_cons piece pieces, .inl rfl⟩
  | cons first before =>
      refine ⟨Text.join "/" (first :: before) ++ '/' :: piece, ?_, .inr ⟨_, rfl⟩⟩
      rw [List.cons_append, join_cons, join_cons, List.flatMap_append, List.flatMap_cons]
      simp only [List.append_assoc, List.cons_append]

/-- The last name of a path is at the end of its text, but for what does not count. -/
theorem getLast?_names_ofText_iff :
    (ofText text).names.getLast? = some name ↔
      ∃ front after, text = front ++ after ∧ EndsInName front name ∧ Trailing after := by
  constructor
  · intro hlast
    -- Of the pieces between the slashes, the name is the last one that counts.
    obtain ⟨names, hnames⟩ := List.getLast?_eq_some_iff.mp hlast
    obtain ⟨first, last, hcut, _, hfilter⟩ := List.filter_eq_append_iff.mp hnames
    obtain ⟨second, pieces, rfl, _, hname, hpieces⟩ := List.filter_eq_cons_iff.mp hfilter
    obtain ⟨hempty, hdot⟩ := isName_iff.mp hname
    have hmem : name ∈ Text.cut '/' text := by
      rw [hcut]
      simp
    have hslash : '/' ∉ name := Text.not_mem_of_mem_cut hmem
    obtain ⟨front, hjoin, hfront⟩ := join_append_cons (first ++ second) name pieces
    rw [List.append_assoc, ← hcut] at hjoin
    exact ⟨front, _, (Text.join_cut '/' text).symm.trans hjoin, ⟨hempty, hdot, hslash, hfront⟩,
      trailing_of_filter_eq_nil hpieces⟩
  · rintro ⟨front, after, rfl, hends, htrailing⟩
    obtain ⟨pieces, hpieces⟩ := hends.exists_cut
    obtain ⟨idle, hidle, hcut⟩ := htrailing.exists_cut
    rw [ofText, hcut, hpieces, List.filter_append, List.filter_append,
      List.filter_cons_of_pos hends.isName, hidle, List.append_nil, List.filter_nil,
      List.getLast?_concat]

theorem endsInName_toText {path : Path} (hnormal : path.Normal)
    (hlast : path.names.getLast? = some name) : EndsInName path.toText name := by
  obtain ⟨names, hnames⟩ := List.getLast?_eq_some_iff.mp hlast
  obtain ⟨hempty, hdot, hslash⟩ := hnormal name (List.mem_of_getLast? hlast)
  refine ⟨hempty, hdot, hslash, ?_⟩
  rw [toText_of_names_ne_nil (by simp [hnames]), hnames]
  obtain ⟨front, hjoin, rfl | ⟨other, rfl⟩⟩ := join_append_cons names name []
  · rw [hjoin, List.flatMap_nil, List.append_nil]
    cases path.root with
    | relative => exact .inl rfl
    | single => exact .inr ⟨[], rfl⟩
    | double => exact .inr ⟨"/", rfl⟩
  · rw [hjoin, List.flatMap_nil, List.append_nil, ← List.append_assoc]
    exact .inr ⟨_, rfl⟩

theorem endsInName_toText_ofText_iff :
    EndsInName (ofText text).toText name ↔ (ofText text).names.getLast? = some name := by
  constructor
  · intro hends
    rw [← (normal_ofText text).ofText_toText]
    exact getLast?_names_ofText_iff.mpr ⟨_, [], (List.append_nil _).symm, hends, .nil⟩
  · exact endsInName_toText (normal_ofText text)

end Path

namespace Language

variable {path name : Text} {language other : Language} {order : List Language}

/-- A name ends in one of the language's suffixes, or in one of them and a line feed. -/
def EndsIn (name : Text) (language : Language) : Prop :=
  ∃ suffix ∈ language.suffixes, ∃ stem : Text,
    name = stem ++ suffix ∨ name = stem ++ suffix ++ ['\n']

theorem getLast?_of_mem_suffixes {suffix : Text} (hsuffix : suffix ∈ language.suffixes) :
    suffix ≠ [] ∧ suffix.getLast? ≠ some '\n' := by
  revert suffix
  cases language <;> decide

theorem hasSuffix_iff : hasSuffix name language = true ↔ EndsIn name language := by
  simp only [hasSuffix, List.any_eq_true, List.isSuffixOf_iff_suffix]
  constructor
  · rintro ⟨suffix, hsuffix, stem, hstem⟩
    refine ⟨suffix, hsuffix, stem, ?_⟩
    rw [hstem]
    exact name.eq_or_eq_dropFinalNewline
  · rintro ⟨suffix, hsuffix, stem, rfl | rfl⟩
    · obtain ⟨hne, hlast⟩ := getLast?_of_mem_suffixes hsuffix
      refine ⟨suffix, hsuffix, stem, (Text.dropFinalNewline_of_getLast? ?_).symm⟩
      rwa [List.getLast?_append_of_ne_nil _ hne]
    · exact ⟨suffix, hsuffix, stem, (Text.dropFinalNewline_concat _).symm⟩

/-- No suffix of a language ends in one of another. -/
theorem eq_of_isSuffix {suffix second : Text} (hsuffix : suffix ∈ language.suffixes)
    (hsecond : second ∈ other.suffixes) (hends : suffix <:+ second) : language = other := by
  have htable : ∀ suffix ∈ language.suffixes, ∀ second ∈ other.suffixes,
      suffix <:+ second → language = other := by
    cases language <;> cases other <;> decide
  exact htable suffix hsuffix second hsecond hends

theorem EndsIn.unique (hlanguage : EndsIn name language) (hother : EndsIn name other) :
    language = other := by
  rw [← hasSuffix_iff] at hlanguage hother
  simp only [hasSuffix, List.any_eq_true, List.isSuffixOf_iff_suffix] at hlanguage hother
  obtain ⟨suffix, hsuffix, hfirst⟩ := hlanguage
  obtain ⟨second, hsecond, hlast⟩ := hother
  rcases List.suffix_or_suffix_of_suffix hfirst hlast with hshorter | hlonger
  · exact eq_of_isSuffix hsuffix hsecond hshorter
  · exact (eq_of_isSuffix hsecond hsuffix hlonger).symm

/-- In any order, the first language with a suffix of the name is the only one. -/
theorem find?_hasSuffix_eq_some_iff (hmem : language ∈ order) :
    order.find? (hasSuffix name) = some language ↔ EndsIn name language := by
  constructor
  · intro hfound
    exact hasSuffix_iff.mp (List.find?_some hfound)
  · intro hends
    have hsome : (order.find? (hasSuffix name)).isSome := by
      rw [List.find?_isSome]
      exact ⟨language, hmem, hasSuffix_iff.mpr hends⟩
    obtain ⟨first, hfirst⟩ := Option.isSome_iff_exists.mp hsome
    rw [hfirst, (hasSuffix_iff.mp (List.find?_some hfirst)).unique hends]

theorem mem_all (language : Language) : language ∈ all := by
  cases language <;> decide

theorem find?_hasSuffix_of_perm (hperm : order.Perm all) :
    order.find? (hasSuffix name) = all.find? (hasSuffix name) := by
  ext language
  rw [find?_hasSuffix_eq_some_iff (hperm.mem_iff.mpr (mem_all language)),
    find?_hasSuffix_eq_some_iff (mem_all language)]

theorem not_endsIn_nil : ¬ EndsIn [] language := by
  rintro ⟨suffix, hsuffix, stem, hstem⟩
  have hne := (getLast?_of_mem_suffixes hsuffix).1
  simp [hne] at hstem

theorem ofFile?_eq_some_iff :
    ofFile? path = some language ↔
      ∃ name, Path.EndsInName (Path.ofText path).toText name ∧ EndsIn name language := by
  rw [ofFile?, find?_hasSuffix_eq_some_iff (mem_all language), Path.name]
  simp only [Path.endsInName_toText_ofText_iff]
  cases (Path.ofText path).names.getLast? with
  | none => simp [not_endsIn_nil]
  | some name => simp

theorem ofFile?_eq_none_iff :
    ofFile? path = none ↔
      ∀ name, Path.EndsInName (Path.ofText path).toText name → ∀ language, ¬ EndsIn name language := by
  constructor
  · intro hnone name hname language hends
    rw [ofFile?_eq_some_iff.mpr ⟨name, hname, hends⟩] at hnone
    cases hnone
  · intro hnowhere
    by_contra hne
    obtain ⟨language, hlanguage⟩ := Option.ne_none_iff_exists'.mp hne
    obtain ⟨name, hname, hends⟩ := ofFile?_eq_some_iff.mp hlanguage
    exact hnowhere name hname language hends

theorem ofFile?_append_slash (directory : Text) (hempty : name ≠ []) (hdot : name ≠ ".")
    (hslash : '/' ∉ name) : ofFile? (directory ++ '/' :: name) = ofFile? name := by
  have hname : Path.isName name = true := Path.isName_iff.mpr ⟨hempty, hdot⟩
  have hwhole : (Path.ofText name).names.getLast? = some name :=
    Path.getLast?_names_ofText_iff.mpr
      ⟨name, [], (List.append_nil name).symm, ⟨hempty, hdot, hslash, .inl rfl⟩, .nil⟩
  refine ofFile?_eq_of_name_eq ?_
  rw [Path.name_ofText_append directory hname hslash, Path.name, hwhole, Option.getD_some]

/-- A path in any text has the language whose suffix stands at the end of its last name, which is what
ends the normal form, and has none where no suffix stands there. One suffix at most does, in whatever
order they are tried, and directories before the name do not matter. -/
theorem suffix_of_last_name_tells_language :
    (∀ path session, (ofFileLogged path session).1 = .ok (ofFile? path)) ∧
    (∀ path language, ofFile? path = some language ↔
      ∃ name, Path.EndsInName (Path.ofText path).toText name ∧ EndsIn name language) ∧
    (∀ path, ofFile? path = none ↔
      ∀ name, Path.EndsInName (Path.ofText path).toText name → ∀ language, ¬ EndsIn name language) ∧
    (∀ path name, Path.EndsInName (Path.ofText path).toText name ↔
      ∃ front after, path = front ++ after ∧ Path.EndsInName front name ∧ Path.Trailing after) ∧
    (∀ name language other, EndsIn name language → EndsIn name other → language = other) ∧
    (∀ order : List Language, order.Perm all → ∀ path,
      order.find? (hasSuffix (Path.ofText path).name) = ofFile? path) ∧
    (∀ directory name, name ≠ [] → name ≠ "." → '/' ∉ name →
      ofFile? (directory ++ '/' :: name) = ofFile? name) := by
  refine ⟨?_, fun _ _ => ofFile?_eq_some_iff, fun _ => ofFile?_eq_none_iff, ?_,
    fun _ _ _ hlanguage hother => hlanguage.unique hother,
    fun _ hperm _ => find?_hasSuffix_of_perm hperm,
    fun directory _ hempty hdot hslash => ofFile?_append_slash directory hempty hdot hslash⟩
  · intro path session
    obtain ⟨final, hlogged, _⟩ := ofFileLogged_apply path session
    rw [hlogged]
  · intro path name
    rw [Path.endsInName_toText_ofText_iff, Path.getLast?_names_ofText_iff]

theorem suffix_of_last_name_tells_language_before_dots :
    ofFile? "src/x.cpp.c\n/.//" = some .c ∧ ofFile? "src/x.C" = none ∧
    List.find? (hasSuffix (Path.ofText "src/x.cpp.c\n/.//").name) [.fortran, .c, .cpp] = some .c ∧
    ofFile? ("a.cpp//." ++ '/' :: "..f90") = some .fortran := by
  obtain ⟨_, hsome, _, hlast, _, horder, hdirectory⟩ := suffix_of_last_name_tells_language
  have hc : ofFile? "src/x.cpp.c\n/.//" = some .c := by
    refine (hsome _ _).mpr ⟨"x.cpp.c\n", (hlast _ _).mpr ⟨"src/x.cpp.c\n", "/.//", rfl, ?_, ?_⟩, ?_⟩
    · exact ⟨by decide, by decide, by decide, .inr ⟨"src", rfl⟩⟩
    · exact Path.Trailing.nil.slash.slash.dot
    · exact ⟨".c", by decide, "x.cpp", .inr rfl⟩
  refine ⟨hc, ?_, ?_, ?_⟩
  · decide
  · rw [horder _ (by decide), hc]
  · rw [hdirectory _ _ (by decide) (by decide) (by decide)]
    decide

end Language

end AsmLens
