import AsmLens.Proofs.Display
import AsmLens.Proofs.MarkedLine

/-!
# The lines that the plain display shows

The window around a marked line holds the indexes that lie no further from it than the context, and no
index without a line. Cut at its line feeds, the plain display gives back the lines of the window behind
their gutters. For a match of the listing one of them bears the mark, with as many lines before it as the
context asks for and the listing has.
-/

namespace AsmLens

/-- Pieces that are each closed by the separator are cut apart again, and nothing comes after the last. -/
theorem Text.cut_flatMap_closed {α : Type} {separator : Char} {items : List α} {piece : α → Text}
    (hfree : ∀ item ∈ items, separator ∉ piece item) :
    Text.cut separator (items.flatMap fun item => piece item ++ [separator]) =
      items.map piece ++ [[]] := by
  induction items with
  | nil => rfl
  | cons item items ih =>
      obtain ⟨hitem, hitems⟩ := List.forall_mem_cons.mp hfree
      rw [List.flatMap_cons, List.append_assoc, List.singleton_append,
        Text.cut_append_separator hitem, ih hitems, List.map_cons, List.cons_append]

namespace View

variable {view : View} {marked : Int}

/-- Without a context every index is near the marked one, and otherwise those that the context reaches. -/
def IsNear (marked context index : Int) : Prop :=
  context ≤ 0 ∨ (index - marked).natAbs ≤ context

instance (marked context index : Int) : Decidable (IsNear marked context index) :=
  inferInstanceAs (Decidable (_ ∨ _))

/-- The indexes of the lines near the marked one, in order. -/
def nearIndexes (lineCount : Nat) (marked context : Int) : List Nat :=
  (List.range lineCount).filter fun index => IsNear marked context index

/-- The window reaches over the lines near the marked one, and over nothing that is no line. -/
theorem mem_window_iff (hmarked : view.marked = some marked) (lineCount index : Int) :
    (view.window lineCount).start ≤ index ∧ index < (view.window lineCount).stop ↔
      (0 ≤ index ∧ index < lineCount) ∧ IsNear marked view.context index := by
  unfold window IsNear
  rw [hmarked]
  dsimp only
  split
  · next hall => simp [hall]
  · next hcontext =>
      dsimp only
      omega

theorem map_snd_shownLines_eq (hmarked : view.marked = some marked) :
    view.shownLines.map Prod.snd = nearIndexes view.listing.lines.length marked view.context := by
  have hlength : view.listing.listingLines.length = view.listing.lines.length := List.length_map _
  rw [map_snd_shownLines, hlength, nearIndexes]
  apply List.filter_congr
  intro index hindex
  have hlt := List.mem_range.mp hindex
  have hiff := mem_window_iff hmarked view.listing.lines.length index
  rw [Bool.eq_iff_iff, Window.holds, Bool.and_eq_true, decide_eq_true_iff, decide_eq_true_iff, hiff,
    decide_eq_true_iff]
  constructor
  · exact fun hnear => hnear.2
  · exact fun hnear => ⟨by omega, hnear⟩

/-- A line of the listing behind its gutter. -/
def plainLine (listing : Text) (marked : Int) (index : Nat) : Text :=
  gutter (marked = index) ++ listing.lines.getD index []

theorem length_gutter (isMarked : Bool) : (gutter isMarked).length = 3 := by
  cases isMarked <;> rfl

theorem lineFeed_not_mem_gutter (isMarked : Bool) : '\n' ∉ gutter isMarked := by
  cases isMarked <;> decide

theorem lineFeed_not_mem_plainLine (listing : Text) (marked : Int) (index : Nat) :
    '\n' ∉ plainLine listing marked index := by
  intro hmem
  rcases List.mem_append.mp hmem with hmem | hmem
  · exact lineFeed_not_mem_gutter _ hmem
  · rw [List.getD_eq_getElem?_getD] at hmem
    cases hline : listing.lines[index]? with
    | none => simp [hline] at hmem
    | some line =>
        rw [hline, Option.getD_some] at hmem
        have hend := Text.not_isLineEnd_of_mem_lines (List.mem_of_getElem? hline) hmem
        exact absurd hend (by decide)

theorem plain_eq (hmarked : view.marked = some marked) :
    view.plain = (nearIndexes view.listing.lines.length marked view.context).flatMap fun index =>
      plainLine view.listing marked index ++ ['\n'] := by
  have hrow : ∀ entry ∈ view.shownLines,
      plainRow ⟨entry.1, decide (some marked = some (entry.2 : Int))⟩ =
        plainLine view.listing marked entry.2 ++ ['\n'] := by
    intro entry hentry
    have hline := getElem?_of_mem_shownLines hentry
    rw [Text.listingLines, List.getElem?_map, Option.map_eq_some_iff] at hline
    obtain ⟨line, hline, hentry⟩ := hline
    rw [plainRow, plainLine, List.getD_eq_getElem?_getD, hline, Option.getD_some, ← hentry]
    simp [ListingLine.ofText]
  rw [← map_snd_shownLines_eq hmarked, List.flatMap_map]
  simp only [plain, hmarked, rows_eq hmarked, List.flatMap_map]
  exact List.flatMap_congr hrow

theorem cut_plain (hmarked : view.marked = some marked) :
    Text.cut '\n' view.plain =
      (nearIndexes view.listing.lines.length marked view.context).map
        (plainLine view.listing marked) ++ [[]] := by
  rw [plain_eq hmarked]
  exact Text.cut_flatMap_closed fun index _ => lineFeed_not_mem_plainLine view.listing marked index

/-! ### The marked line among the others -/

theorem countP_le_range (first count : Nat) : (List.range count).countP (first ≤ ·) = count - first := by
  induction count with
  | zero => simp
  | succ count ih =>
      rw [List.range_succ, List.countP_append, ih, List.countP_singleton]
      simp only [decide_eq_true_eq]
      split
      · omega
      · omega

theorem not_mark_prefix_plainLine (listing : Text) {marked : Int} {index : Nat} (hne : marked ≠ index) :
    ¬ "=> ".toList <+: plainLine listing marked index := by
  rw [plainLine, gutter, if_neg (by simpa using hne)]
  rintro ⟨rest, hrest⟩
  simp at hrest

/-- Among the shown indexes a marked one stands behind those before it, and ahead of those after it. -/
theorem exists_nearIndexes_eq {lineCount index : Nat} (hindex : index < lineCount) (context : Int) :
    ∃ after, nearIndexes lineCount index context =
        (List.range index).filter (fun earlier : Nat => IsNear index context earlier) ++ index :: after ∧
      ∀ later ∈ after, index < later := by
  obtain ⟨more, rfl⟩ : ∃ more, lineCount = index + (more + 1) := ⟨lineCount - index - 1, by omega⟩
  have hnear : IsNear index context index := by
    unfold IsNear
    omega
  refine ⟨((List.range more).map fun later => index + (later + 1)).filter
    fun later : Nat => IsNear index context later, ?_, ?_⟩
  · rw [nearIndexes, List.range_add, List.filter_append, List.range_succ_eq_map, List.map_cons,
      Nat.add_zero, List.filter_cons_of_pos (by simpa using hnear), List.map_map]
    rfl
  · intro later hlater
    obtain ⟨place, _, rfl⟩ := List.mem_map.mp (List.mem_filter.mp hlater).1
    omega

theorem length_filter_isNear_range (index : Nat) {context : Int} (hcontext : 1 ≤ context) :
    (((List.range index).filter fun earlier : Nat => IsNear index context earlier).length : Int) =
      min (index : Int) context := by
  have hnear : ∀ earlier ∈ List.range index,
      decide (IsNear index context earlier) = true ↔ decide (index - context.toNat ≤ earlier) = true := by
    intro earlier hearlier
    have hlt := List.mem_range.mp hearlier
    rw [decide_eq_true_iff, decide_eq_true_iff, IsNear]
    omega
  rw [← List.countP_eq_length_filter, List.countP_congr hnear, countP_le_range]
  omega

/-- One of the shown lines is marked, and it stands behind as many as the context asks for. -/
theorem exists_marked_plainLine {listing line : Text} {index : Nat}
    (hline : listing.lines[index]? = some line) (context : Int) :
    ∃ before after,
      (nearIndexes listing.lines.length index context).map (plainLine listing index) =
        before ++ ("=> ".toList ++ line) :: after ∧
      (∀ row ∈ before ++ after, ¬ "=> ".toList <+: row) ∧
      (1 ≤ context → (before.length : Int) = min (index : Int) context) := by
  obtain ⟨hindex, _⟩ := List.getElem?_eq_some_iff.mp hline
  obtain ⟨after, hnear, hafter⟩ := exists_nearIndexes_eq hindex context
  refine ⟨((List.range index).filter fun earlier : Nat => IsNear index context earlier).map
    (plainLine listing index), after.map (plainLine listing index), ?_, ?_, ?_⟩
  · have hmarked : plainLine listing index index = "=> ".toList ++ line := by
      rw [plainLine, List.getD_eq_getElem?_getD, hline, Option.getD_some, gutter, if_pos (by simp)]
    rw [hnear, List.map_append, List.map_cons, hmarked]
  · intro row hrow
    rw [List.mem_append, List.mem_map, List.mem_map] at hrow
    rcases hrow with ⟨other, hother, rfl⟩ | ⟨other, hother, rfl⟩
    · have hlt := List.mem_range.mp (List.mem_filter.mp hother).1
      exact not_mark_prefix_plainLine listing (by omega)
    · have hlt := hafter other hother
      exact not_mark_prefix_plainLine listing (by omega)
  · intro hcontext
    rw [List.length_map]
    exact length_filter_isNear_range index hcontext

end View

namespace ListingMatch

/-- The plain display is the lines near the marked index, in order and each behind a gutter of three
characters; no index of the window lacks a line, and cut at the line feeds the display gives the lines
back. For a match of the listing one line of the display begins with the mark, and the lines before it are
as many as the context, or as there are. -/
theorem plain_display_is_window_with_one_mark {view : View} {marked : Int}
    (hmarked : view.marked = some marked) :
    view.plain = (View.nearIndexes view.listing.lines.length marked view.context).flatMap
        (fun index : Nat => View.gutter (marked = index) ++ view.listing.lines.getD index [] ++ ['\n']) ∧
    (∀ isMarked, (View.gutter isMarked).length = 3) ∧
    (∀ index : Int,
      (view.window view.listing.lines.length).start ≤ index ∧
          index < (view.window view.listing.lines.length).stop ↔
        (0 ≤ index ∧ index < view.listing.lines.length) ∧ View.IsNear marked view.context index) ∧
    ∃ rows, Text.cut '\n' view.plain = rows ++ [[]] ∧
      rows.map (fun row => some (row.drop 3)) =
        (View.nearIndexes view.listing.lines.length marked view.context).map
          (fun index : Nat => view.listing.lines[index]?) ∧
      ∀ sourceLine marker found, find? view.listing sourceLine marker = some found →
        marked = found.lineIndex →
        ∃ before line after, rows = before ++ ("=> ".toList ++ line) :: after ∧
          view.listing.lines[found.lineIndex]? = some line ∧
          (∀ row ∈ before ++ after, ¬ "=> ".toList <+: row) ∧
          (1 ≤ view.context → (before.length : Int) = min (found.lineIndex : Int) view.context) := by
  refine ⟨View.plain_eq hmarked, View.length_gutter, View.mem_window_iff hmarked _, _,
    View.cut_plain hmarked, ?_, ?_⟩
  · rw [List.map_map]
    apply List.map_congr_left
    intro index hindex
    have hlt := List.mem_range.mp (List.mem_filter.mp hindex).1
    rw [Function.comp_apply, View.plainLine, ← View.length_gutter (marked = index), List.drop_left,
      List.getD_eq_getElem?_getD, List.getElem?_eq_getElem hlt, Option.getD_some]
  · rintro sourceLine marker found hfound rfl
    obtain ⟨holder, _, hholder, hcount⟩ := exists_line_of_find? hfound
    have hindex : found.lineIndex < view.listing.lines.length := by omega
    have hline : view.listing.lines[found.lineIndex]? = some view.listing.lines[found.lineIndex] :=
      List.getElem?_eq_getElem hindex
    obtain ⟨before, after, hrows, hothers, hlength⟩ := View.exists_marked_plainLine hline view.context
    exact ⟨before, _, after, hrows, hline, hothers, hlength⟩

/-- A context of two lines, of which there is one before the marked line. -/
def narrowView : View where
  listing := "f.c:1\r\nint x;\n   0:\tret\n   1:\tnop\n   2:\tnop\n"
  marked := some 1
  context := 2

theorem plain_display_is_window_with_one_mark_near_start :
    narrowView.marked = some 1 ∧
      find? narrowView.listing "int x;" "" = some ⟨7, 1, .sourceLine, "int x;"⟩ ∧
      ∃ rows, Text.cut '\n' narrowView.plain = rows ++ [[]] ∧
        rows.map (fun row => some (row.drop 3)) =
          [0, 1, 2, 3].map (fun index : Nat => narrowView.listing.lines[index]?) ∧
        ∃ before line after, rows = before ++ ("=> ".toList ++ line) :: after ∧
          narrowView.listing.lines[1]? = some line ∧ before.length = 1 := by
  have hmarked : narrowView.marked = some 1 := rfl
  have hfound : find? narrowView.listing "int x;" "" = some ⟨7, 1, .sourceLine, "int x;"⟩ := by decide
  have hnear : View.nearIndexes narrowView.listing.lines.length 1 narrowView.context = [0, 1, 2, 3] := by
    decide
  obtain ⟨_, _, _, rows, hcut, hrows, hmark⟩ := plain_display_is_window_with_one_mark hmarked
  obtain ⟨before, line, after, heq, hline, _, hlength⟩ := hmark _ _ _ hfound rfl
  rw [hnear] at hrows
  have hbefore : (before.length : Int) = min ((1 : Nat) : Int) 2 := hlength (by decide)
  exact ⟨hmarked, hfound, rows, hcut, hrows, before, line, after, heq, hline, by omega⟩

end ListingMatch

end AsmLens
