import AsmLens.Text.Lines

/-!
# Where the lines of a text lie

A line takes up its own characters and those of its end. The index of the line that holds a character
is the number of line ends before it, of which line feeds are only one kind: the others are counted
apart here.
-/

namespace AsmLens.Text

namespace Segment

/-- A line with its end. -/
def whole (segment : Segment) : Text :=
  segment.line ++ segment.terminator

/-- The line ends in something else than a line feed or a carriage return with a line feed. -/
def endsStray (segment : Segment) : Bool :=
  segment.terminator ≠ [] && segment.terminator ≠ ['\n'] && segment.terminator ≠ ['\r', '\n']

/-- How many characters the first lines have, with their ends. -/
def start (segments : List Segment) (index : Nat) : Nat :=
  ((segments.take index).flatMap whole).length

/-- How many of the lines that are over before an offset end in something else than a line feed. -/
def strayEnds : List Segment → Nat → Nat
  | [], _ => 0
  | segment :: more, offset =>
      if segment.whole.length ≤ offset then
        segment.endsStray.toNat + strayEnds more (offset - segment.whole.length)
      else
        0

@[simp]
theorem start_zero (segments : List Segment) : start segments 0 = 0 := by
  simp [start]

@[simp]
theorem start_nil (index : Nat) : start [] index = 0 := by
  simp [start]

@[simp]
theorem start_cons_succ (segment : Segment) (more : List Segment) (index : Nat) :
    start (segment :: more) (index + 1) = segment.whole.length + start more index := by
  simp [start]

/-- Every character belongs to some line. -/
theorem exists_start_le {segments : List Segment} {offset : Nat}
    (hoffset : offset < (segments.flatMap whole).length) :
    ∃ index < segments.length, start segments index ≤ offset ∧ offset < start segments (index + 1) := by
  induction segments generalizing offset with
  | nil => simp at hoffset
  | cons segment more ih =>
      rw [List.flatMap_cons, List.length_append] at hoffset
      by_cases hfirst : offset < segment.whole.length
      · refine ⟨0, by simp, by simp, ?_⟩
        rw [start_cons_succ]
        omega
      · have hrest : offset - segment.whole.length < (more.flatMap whole).length := by omega
        obtain ⟨index, hindex, hle, hlt⟩ := ih hrest
        refine ⟨index + 1, by simpa using hindex, ?_, ?_⟩
        · rw [start_cons_succ]
          omega
        · rw [start_cons_succ]
          omega

end Segment

/-- How many characters stand before a line. -/
def lineStart (text : Text) (index : Nat) : Nat :=
  Segment.start text.segments index

/-- The character at an offset belongs to a line, or to its end. -/
def LineHolds (text : Text) (index offset : Nat) : Prop :=
  text.lineStart index ≤ offset ∧ offset < text.lineStart (index + 1)

instance (text : Text) (index offset : Nat) : Decidable (text.LineHolds index offset) :=
  inferInstanceAs (Decidable (_ ∧ _))

/-- How many line ends before an offset, closed by then, are neither a line feed nor a carriage return
with a line feed. -/
def strayEnds (text : Text) (offset : Nat) : Nat :=
  Segment.strayEnds text.segments offset

theorem length_lines (text : Text) : text.lines.length = text.segments.length :=
  List.length_map _

theorem exists_lineHolds {text : Text} {offset : Nat} (hoffset : offset < text.length) :
    ∃ index < text.lines.length, text.LineHolds index offset := by
  rw [length_lines]
  apply Segment.exists_start_le
  have hwhole : text.segments.flatMap Segment.whole = text := flatMap_segments text
  rwa [hwhole]

/-! ### A text around one of its lines -/

/-- Whatever a text is cut into: the line holds no line end, and nothing but line ends closes it. -/
structure Segment.IsProper (segment : Segment) : Prop where
  whole_ne_nil : segment.whole ≠ []
  free : ∀ c ∈ segment.line, isLineEnd c = false
  ends : ∀ c ∈ segment.terminator, isLineEnd c = true

theorem isProper_of_mem_segments {text : Text} {segment : Segment} (hsegment : segment ∈ text.segments) :
    segment.IsProper := by
  fun_induction segments text generalizing segment with
  | case1 => simp at hsegment
  | case2 rest ih =>
      rcases List.mem_cons.mp hsegment with rfl | hsegment
      · have hends : ∀ c ∈ ['\r', '\n'], isLineEnd c = true :=
          List.forall_mem_cons.mpr ⟨rfl, List.forall_mem_singleton.mpr rfl⟩
        exact ⟨List.cons_ne_nil _ _, by simp, hends⟩
      · exact ih hsegment
  | case3 c rest _ hc ih =>
      rcases List.mem_cons.mp hsegment with rfl | hsegment
      · exact ⟨List.cons_ne_nil _ _, by simp, by simpa using hc⟩
      · exact ih hsegment
  | case4 c rest _ hc _ _ =>
      rw [List.mem_singleton] at hsegment
      subst hsegment
      exact ⟨List.cons_ne_nil _ _, by simpa using hc, by simp⟩
  | case5 c rest _ hc first more hrest ih =>
      rcases List.mem_cons.mp hsegment with rfl | hsegment
      · obtain ⟨_, hfree, hends⟩ := ih (hrest ▸ List.mem_cons_self)
        exact ⟨List.cons_ne_nil _ _, List.forall_mem_cons.mpr ⟨by simpa using hc, hfree⟩, hends⟩
      · exact ih (hrest ▸ List.mem_cons_of_mem _ hsegment)

theorem not_isLineEnd_of_mem_lines {text line : Text} (hline : line ∈ text.lines) {c : Char}
    (hc : c ∈ line) : isLineEnd c = false := by
  obtain ⟨segment, hsegment, rfl⟩ := List.mem_map.mp hline
  exact (isProper_of_mem_segments hsegment).free c hc

/-- No line comes after one that is left open. -/
theorem eq_nil_of_left_open {text : Text} {before after : List Segment} {segment : Segment}
    (hsegments : text.segments = before ++ segment :: after) (hopen : segment.terminator = []) :
    after = [] := by
  fun_induction segments text generalizing before segment with
  | case1 => simp at hsegments
  | case2 rest ih =>
      cases before with
      | nil =>
          obtain ⟨rfl, _⟩ := List.cons.inj hsegments
          contradiction
      | cons first before => exact ih (List.cons.inj hsegments).2 hopen
  | case3 c rest _ _ ih =>
      cases before with
      | nil =>
          obtain ⟨rfl, _⟩ := List.cons.inj hsegments
          contradiction
      | cons first before => exact ih (List.cons.inj hsegments).2 hopen
  | case4 c rest _ _ _ _ =>
      cases before with
      | nil => exact (List.cons.inj hsegments).2.symm
      | cons first before => simp at hsegments
  | case5 c rest _ _ first more hrest ih =>
      cases before with
      | nil =>
          obtain ⟨rfl, rfl⟩ := List.cons.inj hsegments
          have hfirst : segments rest = [] ++ first :: more := hrest
          exact ih hfirst hopen
      | cons other before =>
          obtain ⟨_, rfl⟩ := List.cons.inj hsegments
          have hlater : segments rest = (first :: before) ++ segment :: after := hrest
          exact ih hlater hopen

/-- A text cut around one of its lines; only the last line may be left open. -/
structure CutAround (text : Text) (index : Nat) (before line terminator after : Text) : Prop where
  text_eq : text = before ++ (line ++ (terminator ++ after))
  start_eq : text.lineStart index = before.length
  next_eq : text.lineStart (index + 1) = before.length + (line.length + terminator.length)
  whole_ne_nil : line ++ terminator ≠ []
  ends : ∀ c ∈ terminator, isLineEnd c = true
  closed : terminator = [] → after = []

theorem exists_cutAround {text line : Text} {index : Nat} (hline : text.lines[index]? = some line) :
    ∃ before terminator after, text.CutAround index before line terminator after := by
  rw [lines, List.getElem?_map, Option.map_eq_some_iff] at hline
  obtain ⟨segment, hsegment, rfl⟩ := hline
  obtain ⟨hindex, hget⟩ := List.getElem?_eq_some_iff.mp hsegment
  have hcut : text.segments =
      text.segments.take index ++ segment :: text.segments.drop (index + 1) := by
    rw [← hget, List.getElem_cons_drop, List.take_append_drop]
  have hproper := isProper_of_mem_segments (List.mem_of_getElem? hsegment)
  refine ⟨(text.segments.take index).flatMap Segment.whole, segment.terminator,
    (text.segments.drop (index + 1)).flatMap Segment.whole, ?_, rfl, ?_, hproper.whole_ne_nil,
    hproper.ends, ?_⟩
  · calc text
        = text.segments.flatMap Segment.whole := (flatMap_segments text).symm
      _ = (text.segments.take index ++ segment :: text.segments.drop (index + 1)).flatMap
            Segment.whole := by rw [← hcut]
      _ = _ := by rw [List.flatMap_append, List.flatMap_cons, Segment.whole, List.append_assoc]
  · rw [lineStart, Segment.start, List.take_add_one, hsegment, List.flatMap_append, List.length_append]
    simp [Segment.whole]
  · intro hopen
    rw [eq_nil_of_left_open hcut hopen, List.flatMap_nil]

theorem CutAround.lineHolds_start {text before line terminator after : Text} {index : Nat}
    (hcut : text.CutAround index before line terminator after) :
    text.LineHolds index (text.lineStart index) := by
  have hlength := List.length_pos_iff.mpr hcut.whole_ne_nil
  rw [List.length_append] at hlength
  refine ⟨Nat.le_refl _, ?_⟩
  rw [hcut.start_eq, hcut.next_eq]
  omega

/-- A line and its end lie between the starts of two lines. -/
theorem lineStart_add_length_le {text line : Text} {index : Nat}
    (hline : text.lines[index]? = some line) :
    text.lineStart index + line.length ≤ text.lineStart (index + 1) := by
  obtain ⟨before, terminator, after, hcut⟩ := exists_cutAround hline
  rw [hcut.start_eq, hcut.next_eq]
  omega

theorem lineStart_mono (text : Text) {earlier later : Nat} (hle : earlier ≤ later) :
    text.lineStart earlier ≤ text.lineStart later := by
  have hprefix : text.segments.take earlier <+: text.segments.take later :=
    List.take_prefix_take_left hle
  obtain ⟨more, hmore⟩ := hprefix
  rw [lineStart, lineStart, Segment.start, Segment.start, ← hmore, List.flatMap_append,
    List.length_append]
  exact Nat.le_add_right _ _

/-! ### One step of the cut

A line end closes a line, and any other character lengthens the line after it. Either way the line feeds
and the stray ends before a character stay as many as there are lines before it.
-/

namespace Segment

/-- Before any character of the text, line feeds and stray ends together number its line. -/
def NumbersLines (segments : List Segment) (text : Text) : Prop :=
  ∀ index offset, start segments index ≤ offset → offset < start segments (index + 1) →
    (text.take offset).count '\n' + strayEnds segments offset = index

theorem numbersLines_close {segments : List Segment} {rest : Text} (terminator : Text)
    (hrest : NumbersLines segments rest)
    (hinside : ∀ length < terminator.length, '\n' ∉ terminator.take length)
    (hcount : terminator.count '\n' + (Segment.mk [] terminator).endsStray.toNat = 1) :
    NumbersLines (⟨[], terminator⟩ :: segments) (terminator ++ rest) := by
  intro index offset hle hlt
  have hwhole : (Segment.mk [] terminator).whole = terminator := rfl
  cases index with
  | zero =>
      simp only [start_cons_succ, start_zero, hwhole, Nat.add_zero] at hlt
      have hnone := List.count_eq_zero.mpr (hinside offset hlt)
      rw [List.take_append_of_le_length (Nat.le_of_lt hlt), hnone, strayEnds, hwhole,
        if_neg (by omega)]
  | succ index =>
      simp only [start_cons_succ, hwhole] at hle hlt
      obtain ⟨later, rfl⟩ : ∃ later, offset = terminator.length + later :=
        ⟨offset - terminator.length, by omega⟩
      have hlater := hrest index later (by omega) (by omega)
      rw [List.take_length_add_append, List.count_append, strayEnds, hwhole, if_pos (by omega),
        Nat.add_sub_cancel_left]
      omega

theorem numbersLines_lengthen {segment : Segment} {more : List Segment} {rest : Text} {c : Char}
    (hrest : NumbersLines (segment :: more) rest) (hc : c ≠ '\n') :
    NumbersLines ({ segment with line := c :: segment.line } :: more) (c :: rest) := by
  intro index offset hle hlt
  have hlength :
      ({ segment with line := c :: segment.line } : Segment).whole.length = segment.whole.length + 1 :=
    rfl
  cases offset with
  | zero =>
      cases index with
      | zero => rw [List.take_zero, List.count_nil, strayEnds, hlength, if_neg (by omega)]
      | succ index =>
          rw [start_cons_succ, hlength] at hle
          omega
  | succ offset =>
      have hbefore : start (segment :: more) index ≤ offset := by
        cases index with
        | zero => exact Nat.zero_le offset
        | succ index =>
            rw [start_cons_succ, hlength] at hle
            rw [start_cons_succ]
            omega
      have hafter : offset < start (segment :: more) (index + 1) := by
        rw [start_cons_succ, hlength] at hlt
        rw [start_cons_succ]
        omega
      have hcounted := hrest index offset hbefore hafter
      have hends :
          ({ segment with line := c :: segment.line } : Segment).endsStray = segment.endsStray :=
        rfl
      rw [strayEnds] at hcounted
      rw [List.take_succ_cons, List.count_cons_of_ne hc, strayEnds, hlength, hends,
        Nat.add_sub_add_right]
      simpa only [Nat.add_le_add_iff_right] using hcounted

theorem numbersLines_open {c : Char} (rest : Text) : NumbersLines [⟨[c], []⟩] (c :: rest) := by
  intro index offset hle hlt
  cases index with
  | zero =>
      have hoffset : offset = 0 := by simpa [whole] using hlt
      rw [hoffset]
      rfl
  | succ index =>
      simp only [start_cons_succ, start_nil, Nat.add_zero] at hle hlt
      omega

end Segment

theorem numbersLines_segments (text : Text) : Segment.NumbersLines text.segments text := by
  fun_induction segments text with
  | case1 => intro index offset _ hlt; simp at hlt
  | case2 rest ih =>
      refine Segment.numbersLines_close ['\r', '\n'] ih ?_ (by decide)
      intro length hlength
      have : length = 0 ∨ length = 1 := by simp at hlength; omega
      rcases this with rfl | rfl <;> decide
  | case3 c rest _ _ ih =>
      refine Segment.numbersLines_close [c] ih ?_ ?_
      · intro length hlength
        have : length = 0 := by simpa using hlength
        rw [this]
        exact List.not_mem_nil
      · by_cases hc : c = '\n'
        · rw [hc]
          decide
        · rw [List.count_singleton]
          simp [Segment.endsStray, hc]
  | case4 c rest _ _ _ _ => exact Segment.numbersLines_open rest
  | case5 c rest _ hplain segment more hrest ih =>
      have hc : c ≠ '\n' := by
        rintro rfl
        exact hplain rfl
      rw [hrest] at ih
      exact Segment.numbersLines_lengthen ih hc

/-- The index of the line that holds a character counts the line feeds and the stray ends before it. -/
theorem count_lineFeeds_add_strayEnds {text : Text} {index offset : Nat}
    (hholds : text.LineHolds index offset) :
    (text.take offset).count '\n' + text.strayEnds offset = index :=
  numbersLines_segments text index offset hholds.1 hholds.2

theorem lineHolds_unique {text : Text} {index other offset : Nat}
    (hindex : text.LineHolds index offset) (hother : text.LineHolds other offset) : index = other := by
  rw [← count_lineFeeds_add_strayEnds hindex, count_lineFeeds_add_strayEnds hother]

end AsmLens.Text
