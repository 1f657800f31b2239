import AsmLens.Proofs.FirstPlace
import AsmLens.Proofs.LineNumber
import Mathlib.Data.List.Basic

/-!
# The line of a listing in which a source line is found

A line goes on up to its end, so a part of a text that holds no line end lies in the line in which it
begins. Source lines hold no line ends, whatever the bytes of their file are, and a match by a source line
lies in a single line of the listing. That is the first line that has the source line as a part of it. It
need not be the source line alone, since a longer line may come before.
-/

namespace AsmLens

namespace Text

variable {text line needle : Text} {index offset place : Nat}

/-- What holds no line end does not reach past one. -/
theorem prefix_of_prefix_append {part tail : Text} (hfree : ∀ c ∈ needle, isLineEnd c = false)
    (htail : ∀ c, tail.head? = some c → isLineEnd c = true) (hneedle : needle <+: part ++ tail) :
    needle <+: part := by
  have hpart : part <+: part ++ tail := List.prefix_append part tail
  rcases Nat.le_total needle.length part.length with hle | hle
  · exact List.prefix_of_prefix_length_le hneedle hpart hle
  -- what the needle has past the part would begin with a line end
  · obtain ⟨more, rfl⟩ := List.prefix_of_prefix_length_le hpart hneedle hle
    have hmore : more <+: tail := (List.prefix_append_right_inj part).mp hneedle
    cases more with
    | nil => rw [List.append_nil]
    | cons c more =>
        obtain ⟨rest, rfl⟩ := hmore
        have hend := htail c rfl
        rw [hfree c (List.mem_append_right part List.mem_cons_self)] at hend
        contradiction

theorem CutAround.isLineEnd_of_head? {before terminator after : Text}
    (hcut : text.CutAround index before line terminator after) {c : Char}
    (hc : (terminator ++ after).head? = some c) : isLineEnd c = true := by
  cases hterminator : terminator with
  | nil =>
      rw [hterminator, hcut.closed hterminator] at hc
      contradiction
  | cons d rest =>
      rw [hterminator, List.cons_append, List.head?_cons, Option.some.injEq] at hc
      rw [← hc]
      exact hcut.ends d (hterminator ▸ List.mem_cons_self)

/-- The places in a line at which a needle without line ends stands are the places in the text that belong
to the line and at which it stands. -/
theorem occursAt_line_iff (hneedle : needle ≠ []) (hfree : ∀ c ∈ needle, isLineEnd c = false)
    (hline : text.lines[index]? = some line) :
    OccursAt needle line place ↔
      OccursAt needle text (text.lineStart index + place) ∧
        text.LineHolds index (text.lineStart index + place) := by
  obtain ⟨before, terminator, after, hcut⟩ := exists_cutAround hline
  have hdrop : text.drop (text.lineStart index + place) =
      (line ++ (terminator ++ after)).drop place := by
    rw [hcut.start_eq, hcut.text_eq, List.drop_length_add_append]
  constructor
  · intro hoccurs
    have hplace := hoccurs.lt_length hneedle
    have hrest : needle <+: text.drop (text.lineStart index + place) := by
      rw [hdrop, List.drop_append_of_le_length hoccurs.2]
      exact hoccurs.1.trans (List.prefix_append _ _)
    refine ⟨⟨hrest, ?_⟩, Nat.le_add_right _ _, ?_⟩
    · rw [hcut.start_eq, hcut.text_eq, List.length_append, List.length_append]
      omega
    · rw [hcut.start_eq, hcut.next_eq]
      omega
  · rintro ⟨⟨hstands, _⟩, _, hlt⟩
    rw [hdrop] at hstands
    rw [hcut.start_eq, hcut.next_eq] at hlt
    -- past the line stands its end, in which the needle cannot begin
    have hplace : place ≤ line.length := by
      by_contra hgt
      obtain ⟨c, rest, rfl⟩ := List.exists_cons_of_ne_nil hneedle
      obtain ⟨inside, rfl⟩ : ∃ inside, place = line.length + inside :=
        ⟨place - line.length, by omega⟩
      have hinside : inside < terminator.length := by omega
      rw [List.drop_length_add_append, List.drop_append_of_le_length hinside.le,
        List.drop_eq_getElem_cons hinside, List.cons_append, List.cons_prefix_cons] at hstands
      have hend := hcut.ends c (hstands.1 ▸ List.getElem_mem hinside)
      rw [hfree c List.mem_cons_self] at hend
      contradiction
    rw [List.drop_append_of_le_length hplace] at hstands
    exact ⟨prefix_of_prefix_append hfree (fun _ => hcut.isLineEnd_of_head?) hstands, hplace⟩

/-- A part of a text that holds no line end lies in the line in which it begins. -/
theorem exists_line_of_occursAt (hneedle : needle ≠ []) (hfree : ∀ c ∈ needle, isLineEnd c = false)
    (hoccurs : OccursAt needle text offset) :
    ∃ index line place, text.lines[index]? = some line ∧ text.LineHolds index offset ∧
      offset = text.lineStart index + place ∧ OccursAt needle line place := by
  obtain ⟨index, hindex, hholds⟩ := exists_lineHolds (hoccurs.lt_length hneedle)
  have hline : text.lines[index]? = some text.lines[index] := List.getElem?_eq_getElem hindex
  obtain ⟨place, rfl⟩ := Nat.exists_eq_add_of_le hholds.1
  exact ⟨index, _, place, hline, hholds, rfl, (occursAt_line_iff hneedle hfree hline).mpr ⟨hoccurs, hholds⟩⟩

theorem OccursAt.add_length_le (hoccurs : OccursAt needle text place) :
    place + needle.length ≤ text.length := by
  have hlength := hoccurs.1.length_le
  have hplace := hoccurs.2
  rw [List.length_drop] at hlength
  omega

theorem exists_occursAt_of_infix (hpart : needle <:+: text) : ∃ place, OccursAt needle text place := by
  obtain ⟨before, after, rfl⟩ := hpart
  refine ⟨before.length, ?_, by simp⟩
  rw [List.append_assoc, List.drop_left]
  exact List.prefix_append needle after

/-- Before its first place in a text, a needle without line ends is part of no line. -/
theorem FirstAt.not_infix_of_lt (hfirst : FirstAt needle text offset) (hneedle : needle ≠ [])
    (hfree : ∀ c ∈ needle, isLineEnd c = false) (hholds : text.LineHolds index offset) {earlier : Nat}
    (hearlier : earlier < index) (hline : text.lines[earlier]? = some line) : ¬ needle <:+: line := by
  intro hpart
  obtain ⟨place, hoccurs⟩ := exists_occursAt_of_infix hpart
  obtain ⟨htext, _, hlt⟩ := (occursAt_line_iff hneedle hfree hline).mp hoccurs
  refine hfirst.2 _ ?_ htext
  calc text.lineStart earlier + place
      < text.lineStart (earlier + 1) := hlt
    _ ≤ text.lineStart index := lineStart_mono text hearlier
    _ ≤ offset := hholds.1

end Text

namespace SourceLocation

variable {tree : FileTree} {path : Path} {number : Int} {location : SourceLocation}

theorem exists_pick_of_read (hread : read tree path number = .ok location) :
    ∃ content, pick path content number = .ok location := by
  rw [read] at hread
  cases hcontent : content tree path with
  | error failure => simp [hcontent, bind, Except.bind] at hread
  | ok text =>
      rw [hcontent] at hread
      change (pick path text number).mapError Failure.source = _ at hread
      cases hpick : pick path text number with
      | error error => simp [hpick, Except.mapError] at hread
      | ok picked =>
          rw [hpick] at hread
          exact ⟨text, hpick.trans (congrArg Except.ok (Except.ok.inj hread))⟩

/-- Whatever the bytes of a file are, the text of a line that is read from it holds no line end. -/
theorem not_isLineEnd_of_read (hread : read tree path number = .ok location) {c : Char}
    (hc : c ∈ location.text) : Text.isLineEnd c = false := by
  obtain ⟨content, hpick⟩ := exists_pick_of_read hread
  obtain ⟨_, _, _, htext⟩ := pick_eq_ok_iff.mp hpick
  exact Text.not_isLineEnd_of_mem_readLines (List.mem_of_getElem? htext) hc

end SourceLocation

namespace ListingMatch

/-- The text of a line that was read holds no line end. Where it is found in a listing by itself, it is
part of a line there, and each of its characters belongs to that line and to no other. -/
theorem source_line_match_lies_in_one_line {tree : FileTree} {path : Path} {number : Int}
    {location : SourceLocation} (hread : SourceLocation.read tree path number = .ok location) :
    (∀ c ∈ location.text, Text.isLineEnd c = false) ∧
    ∀ listing marker found, find? listing location.text marker = some found →
      found.matchedBy = .sourceLine →
      found.needle = location.text ∧
      ∃ index line, listing.lines[index]? = some line ∧ found.needle <:+: line ∧
        listing.lineStart index ≤ found.offset ∧
        found.offset + found.needle.length ≤ listing.lineStart index + line.length ∧
        ∀ place, found.offset ≤ place → place < found.offset + found.needle.length →
          ∀ other, listing.LineHolds other place ↔ other = index := by
  have hfree : ∀ c ∈ location.text, Text.isLineEnd c = false := fun c hc =>
    SourceLocation.not_isLineEnd_of_read hread hc
  refine ⟨hfree, fun listing marker found hfound hkind => ?_⟩
  have hfirst := isFirstOf_of_find? hfound
  have hneedle : found.needle = location.text := by
    rw [hfirst.needle_eq, hkind, needleOf]
  refine ⟨hneedle, ?_⟩
  rw [← hneedle] at hfree
  obtain ⟨index, line, inside, hline, hholds, hoffset, hoccurs⟩ :=
    Text.exists_line_of_occursAt hfirst.nonempty hfree hfirst.first.1
  have hend := hoccurs.add_length_le
  refine ⟨index, line, hline, hoccurs.isInfix, hholds.1, by omega, fun place hle hlt other => ?_⟩
  have hnext := Text.lineStart_add_length_le hline
  have hplace : listing.LineHolds index place := ⟨by omega, by omega⟩
  constructor
  · intro hother
    exact Text.lineHolds_unique hother hplace
  · rintro rfl
    exact hplace

/-- The listing has the source line after a form feed, and once more in the same line. -/
theorem source_line_match_lies_in_line_after_form_feed :
    (∀ c ∈ ("int x;" : String).toList, Text.isLineEnd c = false) ∧
      find? "f.c:3\x0c  int x; // int x;\n" "int x;" "" = some ⟨8, 0, .sourceLine, "int x;"⟩ ∧
      ∃ index line, (Text.lines "f.c:3\x0c  int x; // int x;\n")[index]? = some line ∧
        ("int x;" : String).toList <:+: line ∧
        Text.lineStart "f.c:3\x0c  int x; // int x;\n" index ≤ 8 ∧
        14 ≤ Text.lineStart "f.c:3\x0c  int x; // int x;\n" index + line.length := by
  have hread : SourceLocation.read SourceLocation.formFeedTree (Path.ofText "f.c") 4 =
      .ok ⟨Path.ofText "f.c", 4, "int x;"⟩ := rfl
  have hfound : find? "f.c:3\x0c  int x; // int x;\n" "int x;" "" =
      some ⟨8, 0, .sourceLine, "int x;"⟩ := by decide
  obtain ⟨hfree, hlies⟩ := source_line_match_lies_in_one_line hread
  obtain ⟨_, index, line, hline, hpart, hstart, hend, _⟩ := hlies _ _ _ hfound rfl
  exact ⟨hfree, hfound, index, line, hline, hpart, hstart, hend⟩

/-- A line of the listing that is not blank is found by itself, in the first line that has it as a part.
That line comes no later than the one that was looked for, and it is equal to it exactly when no line
before has it as a part. -/
theorem line_is_found_unless_part_of_earlier_one {listing sourceLine : Text}
    (hblank : sourceLine.strip ≠ []) (hline : sourceLine ∈ listing.lines) (marker : Text) :
    ∃ found index line, find? listing sourceLine marker = some found ∧
      found.matchedBy = .sourceLine ∧ listing.LineHolds index found.offset ∧
      listing.lines[index]? = some line ∧ sourceLine <:+: line ∧
      (∀ earlier < index, ∀ other, listing.lines[earlier]? = some other → ¬ sourceLine <:+: other) ∧
      index ≤ listing.lines.idxOf sourceLine ∧
      (line = sourceLine ↔ ∀ earlier < listing.lines.idxOf sourceLine, ∀ other,
        listing.lines[earlier]? = some other → ¬ sourceLine <:+: other) := by
  have hfree : ∀ c ∈ sourceLine, Text.isLineEnd c = false := fun c hc =>
    Text.not_isLineEnd_of_mem_lines hline hc
  have hnonempty : sourceLine ≠ [] := by
    rintro rfl
    exact hblank rfl
  obtain ⟨found, hfound, hkind, hneedle⟩ :=
    exists_find?_of_infix hblank (Text.infix_of_mem_lines hline) marker
  have hfirst := (isFirstOf_of_find? hfound).first
  rw [hneedle] at hfirst
  obtain ⟨index, line, place, hget, hholds, _, hoccurs⟩ :=
    Text.exists_line_of_occursAt hnonempty hfree hfirst.1
  have hearlier : ∀ earlier < index, ∀ other, listing.lines[earlier]? = some other →
      ¬ sourceLine <:+: other := fun earlier hlt other hother =>
    hfirst.not_infix_of_lt hnonempty hfree hholds hlt hother
  have hwhole : listing.lines[listing.lines.idxOf sourceLine]? = some sourceLine :=
    List.getElem?_idxOf hline
  have hle : index ≤ listing.lines.idxOf sourceLine := by
    by_contra hlt
    exact hearlier _ (Nat.lt_of_not_le hlt) _ hwhole (List.infix_refl sourceLine)
  refine ⟨found, index, line, hfound, hkind, hholds, hget, hoccurs.isInfix, hearlier, hle, ?_⟩
  constructor
  · rintro rfl
    have htake : line ∈ listing.lines.take (index + 1) := by
      have hget' : (listing.lines.take (index + 1))[index]? = some line := by
        rw [List.getElem?_take_of_lt (Nat.lt_succ_self index), hget]
      exact List.mem_of_getElem? hget'
    have hfirstWhole := (List.mem_take_iff_idxOf_lt hline).mp htake
    exact fun earlier hlt => hearlier earlier (by omega)
  · intro hnone
    have hsame : index = listing.lines.idxOf sourceLine := by
      by_contra hne
      exact hnone index (by omega) line hget hoccurs.isInfix
    rw [hsame, hwhole] at hget
    exact (Option.some.inj hget).symm

/-- The line that was looked for comes first, and the line after it has it as a part. -/
theorem line_is_found_before_longer_one :
    (Text.strip "i++;" ≠ [] ∧ ("i++;" : String).toList ∈ Text.lines "f:\r\ni++;\n  i++;\n") ∧
      ∃ found index, find? "f:\r\ni++;\n  i++;\n" "i++;" "f.c:9" = some found ∧ found.matchedBy = .sourceLine ∧
        Text.LineHolds "f:\r\ni++;\n  i++;\n" index found.offset ∧
        (Text.lines "f:\r\ni++;\n  i++;\n")[index]? = some "i++;".toList := by
  have hblank : Text.strip "i++;" ≠ [] := by decide
  have hline : ("i++;" : String).toList ∈ Text.lines "f:\r\ni++;\n  i++;\n" := by decide
  obtain ⟨found, index, line, hfound, hkind, hholds, hget, _, _, _, hequal⟩ :=
    line_is_found_unless_part_of_earlier_one hblank hline "f.c:9"
  have hfirst : (Text.lines "f:\r\ni++;\n  i++;\n").idxOf ("i++;" : String).toList = 1 := by decide
  have hline' : line = "i++;".toList := by
    rw [hequal, hfirst]
    intro earlier hearlier other hother
    obtain rfl : earlier = 0 := by omega
    obtain rfl : ("f:" : String).toList = other := Option.some.inj hother
    decide
  exact ⟨⟨hblank, hline⟩, found, index, hfound, hkind, hholds, hline' ▸ hget⟩

/-- A deeper indented line comes before the line that was looked for, and is found in its place. -/
theorem deeper_line_is_found_in_place_of_whole_one :
    Text.strip "    i++;" ≠ [] ∧
      ("    i++;" : String).toList ∈ Text.lines "        i++;\n   0:\tret\n    i++;\n" ∧
      find? "        i++;\n   0:\tret\n    i++;\n" "    i++;" "f.c:3" =
        some ⟨4, 0, .sourceLine, "    i++;"⟩ ∧
      Text.LineHolds "        i++;\n   0:\tret\n    i++;\n" 0 4 ∧
      (Text.lines "        i++;\n   0:\tret\n    i++;\n")[0]? = some "        i++;".toList ∧
      ("        i++;" : String).toList ≠ "    i++;".toList := by
  decide

end ListingMatch

end AsmLens
