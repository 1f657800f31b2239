import AsmLens.Proofs.MarkedLine

/-!
# Line ends that are no line feeds

A stray line end is told by the characters of a text alone: it closes a line, but it is no line feed, nor
a carriage return with a line feed after it. The index of a match counts line feeds, so it stays behind
the index of the line that holds the match by one for every stray line end before the match. It never
runs ahead, so there is always a line at that index.
-/

namespace AsmLens

namespace Text

/-- A line ends with this character, and it is neither a line feed nor followed by one that ends the same
line. -/
def isStrayEndAt (text : Text) (place : Nat) : Bool :=
  match text[place]? with
  | none => false
  | some c => isLineEnd c && c ≠ '\n' && !(c = '\r' && text[place + 1]? = some '\n')

@[simp]
theorem isStrayEndAt_nil (place : Nat) : isStrayEndAt [] place = false :=
  rfl

theorem isStrayEndAt_cons_zero (c : Char) (rest : Text) :
    isStrayEndAt (c :: rest) 0 = (isLineEnd c && c ≠ '\n' && !(c = '\r' && rest[0]? = some '\n')) :=
  rfl

/-- How many line ends before an offset are stray. -/
def countStrayEnds (text : Text) (offset : Nat) : Nat :=
  (List.range offset).countP text.isStrayEndAt

@[simp]
theorem countStrayEnds_zero (text : Text) : text.countStrayEnds 0 = 0 :=
  rfl

@[simp]
theorem countStrayEnds_nil (offset : Nat) : countStrayEnds [] offset = 0 := by
  simp [countStrayEnds, List.countP_eq_zero]

theorem countStrayEnds_cons_succ (c : Char) (rest : Text) (offset : Nat) :
    countStrayEnds (c :: rest) (offset + 1) =
      (isStrayEndAt (c :: rest) 0).toNat + countStrayEnds rest offset := by
  rw [countStrayEnds, List.range_succ_eq_map, List.countP_cons, List.countP_map, Nat.add_comm]
  congr 1
  cases isStrayEndAt (c :: rest) 0 <;> rfl

theorem countStrayEnds_eq_zero_iff {text : Text} {offset : Nat} :
    text.countStrayEnds offset = 0 ↔ ∀ place < offset, text.isStrayEndAt place = false := by
  simp [countStrayEnds, List.countP_eq_zero]

theorem isStrayEndAt_cons_of_not_isLineEnd {c : Char} (hc : ¬ isLineEnd c = true) (rest : Text) :
    isStrayEndAt (c :: rest) 0 = false := by
  simp [isStrayEndAt_cons_zero, hc]

/-- A line end that takes no other along is stray unless it is a line feed. -/
theorem isStrayEndAt_cons_of_isLineEnd {c : Char} {rest : Text} (hc : isLineEnd c = true)
    (hpair : ∀ more, c = '\r' → rest = '\n' :: more → False) :
    isStrayEndAt (c :: rest) 0 = decide (c ≠ '\n') := by
  have halone : ¬ (c = '\r' ∧ rest[0]? = some '\n') := by
    rintro ⟨hreturn, hfeed⟩
    rw [← List.head?_eq_getElem?] at hfeed
    obtain ⟨more, hmore⟩ := List.head?_eq_some_iff.mp hfeed
    exact hpair more hreturn hmore
  have hsingle : (decide (c = '\r') && decide (rest[0]? = some '\n')) = false := by
    rwa [← Bool.decide_and, decide_eq_false_iff_not]
  rw [isStrayEndAt_cons_zero, hc, hsingle]
  simp

namespace Segment

theorem strayEnds_lineEnd (c : Char) (more : List Segment) (offset : Nat) :
    strayEnds (⟨[], [c]⟩ :: more) (offset + 1) = (decide (c ≠ '\n')).toNat + strayEnds more offset := by
  simp [strayEnds, whole, endsStray]

theorem strayEnds_lengthen (c : Char) (segment : Segment) (more : List Segment) (offset : Nat) :
    strayEnds ({ segment with line := c :: segment.line } :: more) (offset + 1) =
      strayEnds (segment :: more) offset := by
  simp [strayEnds, whole, endsStray]

end Segment

/-- Among the lines that are over, those with a stray end are as many as the stray ends themselves. -/
theorem strayEnds_eq_countStrayEnds (text : Text) (offset : Nat) :
    text.strayEnds offset = text.countStrayEnds offset := by
  unfold strayEnds
  fun_induction segments text generalizing offset with
  | case1 => rw [countStrayEnds_nil, Segment.strayEnds]
  | case2 rest ih =>
      -- Neither the carriage return nor its line feed counts, and the line is over after both.
      obtain rfl | rfl | ⟨later, rfl⟩ : offset = 0 ∨ offset = 1 ∨ ∃ later, offset = later + 2 := by
        by_cases hover : 2 ≤ offset
        · exact .inr (.inr ⟨offset - 2, by omega⟩)
        · omega
      · rfl
      · rfl
      · rw [countStrayEnds_cons_succ, countStrayEnds_cons_succ, ← ih later]
        simp [Segment.strayEnds, Segment.whole, Segment.endsStray, isStrayEndAt_cons_zero]
  | case3 c rest hpair hc ih =>
      cases offset with
      | zero => rfl
      | succ offset =>
          rw [countStrayEnds_cons_succ, isStrayEndAt_cons_of_isLineEnd hc hpair,
            Segment.strayEnds_lineEnd, ih]
  | case4 c rest _ hc hrest ih =>
      cases offset with
      | zero => rfl
      | succ offset =>
          rw [countStrayEnds_cons_succ, isStrayEndAt_cons_of_not_isLineEnd hc, ← ih offset, hrest]
          simp [Segment.strayEnds, Segment.whole, Segment.endsStray]
  | case5 c rest _ hc segment more hrest ih =>
      cases offset with
      | zero => simp [Segment.strayEnds, Segment.whole]
      | succ offset =>
          rw [countStrayEnds_cons_succ, isStrayEndAt_cons_of_not_isLineEnd hc, ← ih offset, hrest,
            Segment.strayEnds_lengthen]
          simp

end Text

namespace ListingMatch

/-- One line of the listing holds the match. It is there, the index of the match does not lie behind it,
and the difference of the two is the number of stray line ends before the match. So there is a line at the
index of the match, and it is the right one exactly when no stray line end comes before. -/
theorem lineIndex_lags_by_stray_ends {listing sourceLine marker : Text} {found : ListingMatch}
    (hfound : find? listing sourceLine marker = some found) :
    ∃ index, listing.LineHolds index found.offset ∧
      (∀ other, listing.LineHolds other found.offset → other = index) ∧
      found.lineIndex ≤ index ∧ index < listing.lines.length ∧
      index - found.lineIndex = listing.countStrayEnds found.offset ∧
      (∃ line, listing.lines[found.lineIndex]? = some line) ∧
      (found.lineIndex = index ↔
        ∀ place < found.offset, listing.isStrayEndAt place = false) := by
  obtain ⟨index, hholds, hindex, hcount⟩ := exists_line_of_find? hfound
  rw [Text.strayEnds_eq_countStrayEnds] at hcount
  have hline : found.lineIndex < listing.lines.length := by omega
  refine ⟨index, hholds, fun other hother => Text.lineHolds_unique hother hholds, by omega, hindex,
    by omega, ⟨_, List.getElem?_eq_getElem hline⟩, ?_⟩
  rw [← Text.countStrayEnds_eq_zero_iff]
  omega

/-- The match starts at the line feed of a line end that begins with a carriage return. -/
theorem lineIndex_lags_before_paired_lineFeed :
    find? "a\x0cb\r\r\nint x;" "\nint x;" "" = some ⟨5, 0, .sourceLine, "\nint x;"⟩ ∧
      Text.LineHolds ("a\x0cb\r\r\nint x;" : String) 2 5 ∧
      Text.countStrayEnds ("a\x0cb\r\r\nint x;" : String) 5 = 2 := by
  have hfound : find? "a\x0cb\r\r\nint x;" "\nint x;" "" = some ⟨5, 0, .sourceLine, "\nint x;"⟩ := by
    decide
  have hholds : Text.LineHolds ("a\x0cb\r\r\nint x;" : String) 2 5 := by decide
  obtain ⟨index, _, hunique, _, _, hcount, _⟩ := lineIndex_lags_by_stray_ends hfound
  rw [← hunique 2 hholds] at hcount
  exact ⟨hfound, hholds, hcount.symm⟩

end ListingMatch

end AsmLens
