import AsmLens.Proofs.Display
import AsmLens.Proofs.LiteralMatch
import AsmLens.Proofs.StrayEnd

/-!
# The numbers of the lines of a source file

Compilers number the lines of a file by its line feeds, and so do the markers in a listing. A source line
is read under its number among the lines that all kinds of line ends close. The two numberings agree as
long as no line holds another line end than a line feed. After one, the line that is read under a number
is part of a line with a smaller number, by one for every stray line end before it.
-/

namespace AsmLens

namespace Text

variable {text rest line : Text} {more : List Text} {c : Char}

/-- The lines as compilers number them. A line feed closes each of them, the last one may be left open,
and an empty text is one empty line. -/
def feedLines (text : Text) : List Text :=
  cut '\n' text.dropFinalNewline

theorem feedLines_ne_nil (text : Text) : text.feedLines ≠ [] :=
  cut_ne_nil '\n' text.dropFinalNewline

theorem feedLines_lineFeed_cons (hrest : rest ≠ []) :
    feedLines ('\n' :: rest) = [] :: rest.feedLines := by
  rw [feedLines, dropFinalNewline_cons fun _ => hrest, cut_cons_separator]
  rfl

theorem feedLines_cons_of_ne (hc : c ≠ '\n') (hrest : rest.feedLines = line :: more) :
    feedLines (c :: rest) = (c :: line) :: more := by
  rw [feedLines, dropFinalNewline_cons (absurd · hc), cut_cons_of_ne hc hrest]

/-- The lines that can be read by their numbers, of which there is always a first one. -/
def readLines (text : Text) : List Text :=
  if text.lines = [] then [[]] else text.lines

theorem lines_ne_nil (htext : text ≠ []) : text.lines ≠ [] := by
  rw [lines, Ne, List.map_eq_nil_iff]
  exact segments_ne_nil htext

theorem readLines_ne_nil (text : Text) : text.readLines ≠ [] := by
  rw [readLines]
  split
  · exact List.cons_ne_nil _ _
  · assumption

theorem readLines_lineFeed_cons (hrest : rest ≠ []) :
    readLines ('\n' :: rest) = [] :: rest.readLines := by
  have hlines : lines ('\n' :: rest) = [] :: rest.lines :=
    lines_cons_of_isLineEnd (by decide) (by simp)
  rw [readLines, readLines, hlines, if_neg (List.cons_ne_nil _ _), if_neg (lines_ne_nil hrest)]

theorem readLines_cons_of_not_isLineEnd (hc : ¬ isLineEnd c = true)
    (hrest : rest.readLines = line :: more) : readLines (c :: rest) = (c :: line) :: more := by
  rw [readLines] at hrest ⊢
  rw [lines_cons_of_not_isLineEnd hc]
  cases hlines : rest.lines with
  | nil =>
      rw [hlines, if_pos rfl] at hrest
      cases hrest
      rfl
  | cons first others =>
      rw [hlines, if_neg (List.cons_ne_nil _ _)] at hrest
      cases hrest
      rfl

/-- As long as the lines between line feeds hold no line end, they are the lines that are read. -/
theorem take_readLines {count : Nat}
    (hclean : ∀ line ∈ text.feedLines.take count, ∀ c ∈ line, isLineEnd c = false) :
    text.readLines.take count = text.feedLines.take count := by
  -- A line feed closes an empty line in both cuts, any other character goes to the first line of both.
  induction text generalizing count with
  | nil => rfl
  | cons c rest ih =>
      cases count with
      | zero => rfl
      | succ count =>
          by_cases hfeed : c = '\n'
          · subst hfeed
            cases rest with
            | nil => rfl
            | cons d rest =>
                have hne : d :: rest ≠ [] := List.cons_ne_nil _ _
                rw [feedLines_lineFeed_cons hne, List.take_succ_cons] at hclean ⊢
                rw [readLines_lineFeed_cons hne, List.take_succ_cons,
                  ih fun line hline => hclean line (List.mem_cons_of_mem _ hline)]
          · obtain ⟨line, more, hfeeds⟩ := List.exists_cons_of_ne_nil (feedLines_ne_nil rest)
            obtain ⟨first, others, hreads⟩ := List.exists_cons_of_ne_nil (readLines_ne_nil rest)
            rw [feedLines_cons_of_ne hfeed hfeeds, List.take_succ_cons] at hclean ⊢
            obtain ⟨hline, hmore⟩ := List.forall_mem_cons.mp hclean
            obtain ⟨hc, hline⟩ := List.forall_mem_cons.mp hline
            have hprefix : (first :: others).take (count + 1) = (line :: more).take (count + 1) := by
              rw [← hreads, ← hfeeds]
              refine ih ?_
              rw [hfeeds, List.take_succ_cons]
              exact List.forall_mem_cons.mpr ⟨hline, hmore⟩
            rw [List.take_succ_cons, List.take_succ_cons, List.cons.injEq] at hprefix
            rw [readLines_cons_of_not_isLineEnd (by simp [hc]) hreads, List.take_succ_cons, hprefix.1,
              hprefix.2]

theorem not_isLineEnd_of_mem_readLines (hline : line ∈ text.readLines) (hc : c ∈ line) :
    isLineEnd c = false := by
  rw [readLines] at hline
  split at hline
  · rw [List.mem_singleton] at hline
    subst hline
    contradiction
  · exact not_isLineEnd_of_mem_lines hline hc

/-! ### How far the numbers drift apart -/

theorem exists_feedLines_of_begins {part : Text} (hpart : '\n' ∉ part) (after : Text) :
    ∃ line more, (part ++ after).feedLines = line :: more ∧ part <+: line := by
  induction part with
  | nil =>
      obtain ⟨line, more, hlines⟩ := List.exists_cons_of_ne_nil (feedLines_ne_nil after)
      exact ⟨line, more, hlines, List.nil_prefix⟩
  | cons c part ih =>
      obtain ⟨line, more, hlines, hprefix⟩ := ih (List.not_mem_of_not_mem_cons hpart)
      have hc := (List.ne_of_not_mem_cons hpart).symm
      exact ⟨c :: line, more, feedLines_cons_of_ne hc hlines, List.cons_prefix_cons.mpr ⟨rfl, hprefix⟩⟩

/-- What goes over no line feed is part of the line that the line feeds before it number. -/
theorem exists_feedLine_of_part {part after : Text} (hpart : '\n' ∉ part) (hne : part ++ after ≠ [])
    (before : Text) :
    ∃ line, (before ++ (part ++ after)).feedLines[before.count '\n']? = some line ∧ part <:+: line := by
  induction before with
  | nil =>
      obtain ⟨line, more, hlines, hprefix⟩ := exists_feedLines_of_begins hpart after
      exact ⟨line, by rw [List.nil_append, hlines]; rfl, hprefix.isInfix⟩
  | cons c before ih =>
      obtain ⟨line, hline, hinfix⟩ := ih
      by_cases hfeed : c = '\n'
      · subst hfeed
        refine ⟨line, ?_, hinfix⟩
        rw [List.cons_append, feedLines_lineFeed_cons (List.append_ne_nil_of_right_ne_nil _ hne),
          List.count_cons_self, List.getElem?_cons_succ, hline]
      · obtain ⟨first, more, hlines⟩ :=
          List.exists_cons_of_ne_nil (feedLines_ne_nil (before ++ (part ++ after)))
        rw [hlines] at hline
        rw [List.cons_append, feedLines_cons_of_ne hfeed hlines, List.count_cons_of_ne hfeed]
        cases hcount : before.count '\n' with
        | zero =>
            rw [hcount, List.getElem?_cons_zero, Option.some.injEq] at hline
            subst hline
            exact ⟨_, rfl, hinfix.trans (List.suffix_cons _ _).isInfix⟩
        | succ index =>
            rw [hcount] at hline
            exact ⟨line, hline, hinfix⟩

/-- The line read under an index is part of the line that is numbered lower by the stray ends before it. -/
theorem exists_feedLine_of_readLines {index : Nat} (hline : text.readLines[index]? = some line) :
    ∃ numbered, text.feedLines[index - text.countStrayEnds (text.lineStart index)]? = some numbered ∧
      line <:+: numbered := by
  rw [readLines] at hline
  split at hline
  · next hnone =>
      have hempty : text = [] := by
        by_contra hne
        exact lines_ne_nil hne hnone
      subst hempty
      have hzero : index = 0 := by
        by_contra hne
        simp [hne] at hline
      subst hzero
      exact ⟨[], rfl, by simpa using hline⟩
  · obtain ⟨before, terminator, after, hcut⟩ := exists_cutAround hline
    have hne : line ++ (terminator ++ after) ≠ [] := by
      rw [← List.append_assoc]
      exact List.append_ne_nil_of_left_ne_nil hcut.whole_ne_nil after
    have hfeed : '\n' ∉ line := by
      intro hmem
      have hend := not_isLineEnd_of_mem_lines (List.mem_of_getElem? hline) hmem
      exact absurd hend (by decide)
    have hcount := count_lineFeeds_add_strayEnds hcut.lineHolds_start
    have hbefore : text.take (text.lineStart index) = before := by
      rw [hcut.start_eq, hcut.text_eq, List.take_left]
    rw [hbefore, strayEnds_eq_countStrayEnds] at hcount
    obtain ⟨numbered, hnumbered, hinfix⟩ := exists_feedLine_of_part hfeed hne before
    rw [← hcut.text_eq] at hnumbered
    refine ⟨numbered, ?_, hinfix⟩
    rw [← hnumbered]
    congr 1
    omega

end Text

namespace SourceLocation

variable {path : Path} {content : Text} {number : Int} {location : SourceLocation}

/-- The location is the line that compilers give this number, with its text. -/
structure IsNumbered (path : Path) (content : Text) (number : Int) (location : SourceLocation) :
    Prop where
  path_eq : location.path = path
  line_eq : location.line = number
  positive : 1 ≤ number
  text_eq : content.feedLines[(number - 1).toNat]? = some location.text

theorem getElem?_readLines_eq_some_iff {text : Text} {index : Nat} :
    content.readLines[index]? = some text ↔
      index < max content.lines.length 1 ∧ content.lines.getD index [] = text := by
  rw [Text.readLines]
  by_cases hnone : content.lines = []
  · rw [if_pos hnone, hnone]
    cases index <;> simp
  · have hpositive := List.length_pos_iff.mpr hnone
    rw [if_neg hnone, Nat.max_eq_left hpositive, List.getElem?_eq_some_iff, ← exists_prop]
    refine exists_congr fun hindex => ?_
    rw [List.getD_eq_getElem?_getD, List.getElem?_eq_getElem hindex, Option.getD_some]

theorem pick_eq_ok_iff :
    pick path content number = .ok location ↔
      location.path = path ∧ location.line = number ∧ 1 ≤ number ∧
        content.readLines[(number - 1).toNat]? = some location.text := by
  rw [getElem?_readLines_eq_some_iff, pick]
  obtain ⟨place, line, text⟩ := location
  constructor
  · intro hpick
    split at hpick
    · contradiction
    · next hinside =>
        rw [Except.ok.injEq, mk.injEq] at hpick
        obtain ⟨rfl, rfl, rfl⟩ := hpick
        exact ⟨rfl, rfl, by omega, by omega, rfl⟩
  · rintro ⟨rfl, rfl, hpositive, hinside, htext⟩
    simp only at hpositive hinside htext ⊢
    rw [if_neg (by omega), htext]

theorem pick_eq_ok_iff_isNumbered {count : Nat} (hnumber : number ≤ count)
    (hclean : ∀ line ∈ content.feedLines.take count, ∀ c ∈ line, Text.isLineEnd c = false) :
    pick path content number = .ok location ↔ IsNumbered path content number location := by
  rw [pick_eq_ok_iff]
  have hsame : 1 ≤ number →
      content.readLines[(number - 1).toNat]? = content.feedLines[(number - 1).toNat]? := by
    intro hpositive
    have hindex : (number - 1).toNat < count := by omega
    rw [← List.getElem?_take_of_lt hindex, Text.take_readLines hclean,
      List.getElem?_take_of_lt hindex]
  constructor
  · rintro ⟨hpath, hline, hpositive, htext⟩
    exact ⟨hpath, hline, hpositive, hsame hpositive ▸ htext⟩
  · rintro ⟨hpath, hline, hpositive, htext⟩
    exact ⟨hpath, hline, hpositive, hsame hpositive ▸ htext⟩

theorem not_isLineEnd_of_pick {index : Nat} {line : Text}
    (hline : content.feedLines[index]? = some line)
    (hpick : ∀ location, IsNumbered path content (index + 1) location →
      pick path content (index + 1) = .ok location) {c : Char} (hc : c ∈ line) :
    Text.isLineEnd c = false := by
  have hindex : ((index : Int) + 1 - 1).toNat = index := by omega
  have hnumbered : IsNumbered path content (index + 1) ⟨path, index + 1, line⟩ :=
    ⟨rfl, rfl, by omega, by rw [hindex, hline]⟩
  obtain ⟨_, _, _, htext⟩ := pick_eq_ok_iff.mp (hpick _ hnumbered)
  exact Text.not_isLineEnd_of_mem_readLines (List.mem_of_getElem? htext) hc

variable {tree : FileTree} {bytes : List UInt8}

theorem read_eq_ok_iff (hnul : '\x00' ∉ path.toText)
    (hbytes : tree.readBytes path.toText = .ok bytes) :
    read tree path number = .ok location ↔
      pick path (Runner.captured bytes) number = .ok location := by
  rw [read, content_of_readBytes hnul hbytes]
  change (pick path (Runner.captured bytes) number).mapError Failure.source = _ ↔ _
  cases pick path (Runner.captured bytes) number <;> simp [Except.mapError]

/-- What is read under a number is part of the line that compilers give the number, less the stray line
ends before it. Up to a count, reading a number gives the line that compilers give it, and nothing where
they give it none, exactly when none of those lines holds a line end. -/
theorem line_numbers_agree_iff (hnul : '\x00' ∉ path.toText)
    (hbytes : tree.readBytes path.toText = .ok bytes) (hcontent : Runner.captured bytes = content) :
    (∀ number location, read tree path number = .ok location →
      ∃ numbered,
        content.feedLines[(number - 1).toNat -
          content.countStrayEnds (content.lineStart (number - 1).toNat)]? = some numbered ∧
        location.text <:+: numbered) ∧
    ∀ count : Nat,
      (∀ number : Int, number ≤ count → ∀ location,
        read tree path number = .ok location ↔ IsNumbered path content number location) ↔
      ∀ line ∈ content.feedLines.take count, ∀ c ∈ line, Text.isLineEnd c = false := by
  subst hcontent
  constructor
  · intro number location hread
    obtain ⟨_, _, _, htext⟩ := pick_eq_ok_iff.mp ((read_eq_ok_iff hnul hbytes).mp hread)
    exact Text.exists_feedLine_of_readLines htext
  · intro count
    constructor
    · intro hagree line hline c hc
      obtain ⟨index, hget⟩ := List.getElem?_of_mem hline
      rw [List.getElem?_take] at hget
      split at hget
      · have hpick : ∀ location, IsNumbered path (Runner.captured bytes) (index + 1) location →
            pick path (Runner.captured bytes) (index + 1) = .ok location := by
          intro location hlocation
          have hread := (hagree (index + 1) (by omega) location).mpr hlocation
          exact (read_eq_ok_iff hnul hbytes).mp hread
        exact not_isLineEnd_of_pick hget hpick hc
      · contradiction
    · intro hclean number hnumber location
      rw [read_eq_ok_iff hnul hbytes, pick_eq_ok_iff_isNumbered hnumber hclean]

/-- A source file whose second line holds a form feed. -/
def formFeedText : Text :=
  "int a;\n/* \x0c */\nint x;\n"

def formFeedTree : FileTree :=
  ⟨["w"], [(["f.c", "w"], .file formFeedText.encode false), (["w"], .directory)]⟩

/-- The line before the form feed is numbered alike, and what is read as line 4 is part of line 3. -/
theorem line_numbers_agree_before_form_feed :
    formFeedTree.readBytes (Path.ofText "f.c").toText = .ok formFeedText.encode ∧
      Runner.captured formFeedText.encode = formFeedText ∧
      IsNumbered (Path.ofText "f.c") formFeedText 1 ⟨Path.ofText "f.c", 1, "int a;"⟩ ∧
      ∃ numbered, formFeedText.feedLines[2]? = some numbered ∧
        ("int x;" : String).toList <:+: numbered := by
  have hbytes : formFeedTree.readBytes (Path.ofText "f.c").toText = .ok formFeedText.encode := rfl
  have hcaptured : Runner.captured formFeedText.encode = formFeedText := by decide
  have hfirst : read formFeedTree (Path.ofText "f.c") 1 = .ok ⟨Path.ofText "f.c", 1, "int a;"⟩ := rfl
  have hfourth : read formFeedTree (Path.ofText "f.c") 4 = .ok ⟨Path.ofText "f.c", 4, "int x;"⟩ := rfl
  obtain ⟨hdrift, hagree⟩ := line_numbers_agree_iff (by decide) hbytes hcaptured
  have hclean : ∀ line ∈ formFeedText.feedLines.take 1, ∀ c ∈ line, Text.isLineEnd c = false := by
    have hall : (formFeedText.feedLines.take 1).all (List.all · (!Text.isLineEnd ·)) = true := by
      decide
    simpa using hall
  have hnumbered := ((hagree 1).mpr hclean 1 (by decide) _).mp hfirst
  exact ⟨hbytes, hcaptured, hnumbered, hdrift 4 _ hfourth⟩

/-- What follows the form feed of line 2 is read as line 3, and line 3 as a line 4 that the file lacks. -/
theorem form_feed_shifts_line_numbers :
    formFeedText.feedLines = ["int a;".toList, "/* \x0c */".toList, "int x;".toList] ∧
      read formFeedTree (Path.ofText "f.c") 3 = .ok ⟨Path.ofText "f.c", 3, " */"⟩ ∧
      read formFeedTree (Path.ofText "f.c") 4 = .ok ⟨Path.ofText "f.c", 4, "int x;"⟩ :=
  ⟨by decide, rfl, rfl⟩

end SourceLocation

end AsmLens
