import AsmLens.Proofs.LineSpan
import AsmLens.View.Report
import AsmLens.View.Window

/-!
# The line that is marked and the line that holds the match

A match counts lines by line feeds, and a listing is shown by the lines that all kinds of line ends
close. The line on show at the index of the match is the one that holds the match exactly when every
line end before the match is a line feed, with a carriage return before it or not.
-/

namespace AsmLens

namespace View

/-- One element of a list stands at a given index. -/
theorem filter_zipIdx_index {α : Type} {items : List α} {index : Nat} {item : α} (first : Nat)
    (hitem : items[index]? = some item) :
    (items.zipIdx first).filter (fun entry => entry.2 = first + index) = [(item, first + index)] := by
  induction items generalizing first index with
  | nil => simp at hitem
  | cons head more ih =>
      rw [List.zipIdx_cons]
      cases index with
      | zero =>
          obtain rfl : head = item := by simpa using hitem
          have hmore : (more.zipIdx (first + 1)).filter (fun entry => entry.2 = first + 0) = [] := by
            rw [List.filter_eq_nil_iff]
            intro entry hentry
            have := List.le_snd_of_mem_zipIdx hentry
            simp
            omega
          rw [List.filter_cons_of_pos (by simp), hmore, Nat.add_zero]
      | succ index =>
          have hrest := ih (first + 1) hitem
          rw [Nat.add_right_comm, Nat.add_assoc] at hrest
          rw [List.filter_cons_of_neg (by simp), hrest]

/-- The window around a line of the listing holds that line. -/
theorem window_holds_marked (listing : Text) (context : Int) {index lineCount : Nat}
    (hindex : index < lineCount) :
    (window ⟨listing, some index, context⟩ lineCount).holds index = true := by
  unfold window Window.holds
  simp only [Bool.and_eq_true, decide_eq_true_eq]
  split
  · simp only
    omega
  · simp only
    omega

/-- However many lines are shown around it, exactly one row is marked. -/
theorem filter_isMarked_rows {listing : Text} {index : Nat} {line : ListingLine} (context : Int)
    (hline : listing.listingLines[index]? = some line) :
    (rows ⟨listing, some index, context⟩).filter Row.isMarked = [⟨line, true⟩] := by
  obtain ⟨hindex, _⟩ := List.getElem?_eq_some_iff.mp hline
  have hholds := window_holds_marked listing context hindex
  have hmarked : ∀ entry : ListingLine × Nat,
      (decide (some (index : Int) = some (entry.2 : Int)) &&
        (window ⟨listing, some index, context⟩ listing.listingLines.length).holds entry.2) =
      decide (entry.2 = 0 + index) := by
    intro entry
    by_cases heq : entry.2 = index
    · simp [heq, hholds]
    · have hne : (index : Int) ≠ entry.2 := by omega
      simp [heq, hne]
  unfold rows
  rw [List.filter_map, List.filter_filter]
  simp only [Function.comp_apply, hmarked]
  rw [filter_zipIdx_index 0 hline]
  simp

end View

namespace Inspection

theorem field?_match (inspection : Inspection) :
    inspection.toJson.field? "match" =
      some ((inspection.position.map ListingMatch.toJson).getD .null) :=
  rfl

theorem field?_lines (inspection : Inspection) :
    inspection.toJson.field? "lines" =
      some (.array (inspection.listing.listingLines.map ListingLine.toJson)) :=
  rfl

end Inspection

namespace ListingMatch

/-- The line at the index of a match is there, and the match is on it if no stray line end comes
before. -/
theorem exists_line_of_find? {listing sourceLine marker : Text} {found : ListingMatch}
    (hfound : find? listing sourceLine marker = some found) :
    ∃ index, listing.LineHolds index found.offset ∧ index < listing.lines.length ∧
      found.lineIndex + listing.strayEnds found.offset = index := by
  obtain ⟨hoffset, hcount⟩ := offset_lt_length_of_find? hfound
  obtain ⟨index, hindex, hholds⟩ := Text.exists_lineHolds hoffset
  refine ⟨index, hholds, hindex, ?_⟩
  rw [hcount]
  exact Text.count_lineFeeds_add_strayEnds hholds

/-- Whatever the context, one row is marked; its line stands in the report at the index of the match.
It is the line that holds the match exactly when no line end before the match is a stray one. -/
theorem marked_line_holds_match_iff {listing sourceLine marker : Text} {found : ListingMatch}
    (hfound : find? listing sourceLine marker = some found) :
    (∃ line, listing.lines[found.lineIndex]? = some line ∧
      (∀ context, (View.rows ⟨listing, some found.lineIndex, context⟩).filter View.Row.isMarked =
        [⟨ListingLine.ofText line, true⟩]) ∧
      ∀ inspection : Inspection, inspection.listing = listing → inspection.position = some found →
        (inspection.toJson.field? "match").bind (Json.field? "line_index") =
            some (.number found.lineIndex) ∧
          (inspection.toJson.field? "lines").bind (Json.item? found.lineIndex) =
            some (ListingLine.ofText line).toJson) ∧
    (listing.LineHolds found.lineIndex found.offset ↔ listing.strayEnds found.offset = 0) := by
  obtain ⟨index, hholds, hindex, hcount⟩ := exists_line_of_find? hfound
  constructor
  · have hmarked : found.lineIndex < listing.lines.length := by omega
    have hline : listing.lines[found.lineIndex]? = some listing.lines[found.lineIndex] :=
      List.getElem?_eq_getElem hmarked
    have hlisting : listing.listingLines[found.lineIndex]? =
        some (ListingLine.ofText listing.lines[found.lineIndex]) := by
      rw [Text.listingLines, List.getElem?_map, hline, Option.map_some]
    refine ⟨_, hline, fun context => View.filter_isMarked_rows context hlisting, ?_⟩
    intro inspection hinspection hposition
    constructor
    · rw [Inspection.field?_match, hposition]
      rfl
    · rw [Inspection.field?_lines, Option.bind_some, hinspection, Json.item?, List.getElem?_map,
        hlisting, Option.map_some]
  · constructor
    · intro hmarked
      have := Text.lineHolds_unique hmarked hholds
      omega
    · intro hnone
      have heq : found.lineIndex = index := by omega
      rwa [heq]

theorem marked_line_holds_match_after_carriage_return :
    find? "a\r\nb" "b" "" = some ⟨3, 1, .sourceLine, "b"⟩ ∧
      Text.LineHolds ("a\r\nb" : String) 1 3 := by
  have hfound : find? "a\r\nb" "b" "" = some ⟨3, 1, .sourceLine, "b"⟩ := by decide
  exact ⟨hfound, (marked_line_holds_match_iff hfound).2.mpr (by decide)⟩

/-- A form feed ends a line without a line feed, so the line before the match is marked. -/
theorem form_feed_marks_line_before_match :
    find? "/* \x0c */\nint x;\n" "int x;" "f.c:1" = some ⟨8, 1, .sourceLine, "int x;"⟩ ∧
      ¬ Text.LineHolds ("/* \x0c */\nint x;\n" : String) 1 8 ∧
      Text.LineHolds ("/* \x0c */\nint x;\n" : String) 2 8 := by
  decide

end ListingMatch

end AsmLens
