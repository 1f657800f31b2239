import AsmLens.Proofs.RawLine

/-!
# Source lines that are found as they stand

A search finds its needle wherever the needle stands. With this, each piece of a raw line that a source
file shares with the output of a disassembler is the text of a line of the file, and is found in the
listing by that text.
-/

namespace AsmLens

namespace Text

theorem offsetOf?_eq_none_iff {needle text : Text} :
    offsetOf? needle text = none ↔ ¬ needle <:+: text := by
  induction text with
  | nil =>
      rw [List.infix_nil]
      cases needle <;> simp [offsetOf?]
  | cons c rest ih =>
      rw [offsetOf?, List.infix_cons_iff, ← List.isPrefixOf_iff_prefix]
      by_cases hstart : needle.isPrefixOf (c :: rest) = true
      · simp [hstart]
      · simp [hstart, ih]

theorem infix_of_mem_lines {text line : Text} (hline : line ∈ text.lines) : line <:+: text := by
  obtain ⟨segment, hsegment, rfl⟩ := List.mem_map.mp hline
  obtain ⟨first, rest, hsegments⟩ := List.append_of_mem hsegment
  have hwhole := flatMap_segments text
  rw [hsegments, List.flatMap_append, List.flatMap_cons, List.append_assoc, ← List.append_assoc] at hwhole
  exact ⟨_, _, hwhole⟩

end Text

namespace SourceLocation

/-- Every line of a text has a number. -/
theorem exists_pick_of_mem_lines (path : Path) {content line : Text} (hline : line ∈ content.lines) :
    ∃ number, pick path content number = .ok ⟨path, number, line⟩ := by
  obtain ⟨index, hindex, rfl⟩ := List.getElem_of_mem hline
  refine ⟨index + 1, ?_⟩
  have hinside : ¬ ((index : Int) + 1 < 1 ∨ (max content.lines.length 1 : Nat) < (index : Int) + 1) := by
    omega
  simp only [pick, if_neg hinside, Int.add_sub_cancel, Int.toNat_natCast]
  rw [List.getD_eq_getElem?_getD, List.getElem?_eq_getElem hindex, Option.getD_some]

theorem content_of_readBytes {tree : FileTree} {path : Path} {bytes : List UInt8}
    (hnul : '\x00' ∉ path.toText) (hbytes : tree.readBytes path.toText = .ok bytes) :
    content tree path = .ok (Runner.captured bytes) := by
  have hcontains : path.toText.contains '\x00' = false := by simpa using hnul
  simp only [content, FileTree.readText, FileTree.onPath, hcontains, hbytes]
  rfl

theorem exists_read_of_mem_lines {tree : FileTree} {path : Path} {bytes : List UInt8} {line : Text}
    (hnul : '\x00' ∉ path.toText) (hbytes : tree.readBytes path.toText = .ok bytes)
    (hline : line ∈ (Runner.captured bytes).lines) :
    ∃ number, read tree path number = .ok ⟨path, number, line⟩ := by
  obtain ⟨number, hpick⟩ := exists_pick_of_mem_lines path hline
  refine ⟨number, ?_⟩
  rw [read, content_of_readBytes hnul hbytes]
  change (pick path (Runner.captured bytes) number).mapError Failure.source = _
  rw [hpick]
  rfl

end SourceLocation

namespace ListingMatch

/-- A source line that is not blank is found by itself wherever it stands in the listing, whatever the
marker is. -/
theorem exists_find?_of_infix {listing sourceLine : Text} (hblank : sourceLine.strip ≠ [])
    (hwithin : sourceLine <:+: listing) (marker : Text) :
    ∃ found, find? listing sourceLine marker = some found ∧ found.matchedBy = .sourceLine ∧
      found.needle = sourceLine := by
  have hsome : Text.offsetOf? sourceLine listing ≠ none := fun hnone =>
    Text.offsetOf?_eq_none_iff.mp hnone hwithin
  obtain ⟨offset, hoffset⟩ := Option.ne_none_iff_exists'.mp hsome
  have hsearch : (if sourceLine.strip.isEmpty then none else
      search? listing .sourceLine sourceLine) =
      some ⟨offset, (listing.take offset).count '\n', .sourceLine, sourceLine⟩ := by
    rw [if_neg (by simpa using hblank), search?, hoffset, Option.map_some]
  refine ⟨⟨offset, (listing.take offset).count '\n', .sourceLine, sourceLine⟩, ?_, rfl, rfl⟩
  rw [find?, hsearch, Option.some_or]

/-- Of a raw line that a source file and the output of a program share, every piece is the text of some
line of the file; and the text of a line of the file that is part of the raw line and not blank is found
in the listing by itself. -/
theorem shared_raw_line_is_found {tree : FileTree} {path : Path} {source output rawLine : List UInt8}
    (hnul : '\x00' ∉ path.toText) (hsource : tree.readBytes path.toText = .ok source)
    (hline : IsRawLine rawLine source) (houtput : IsRawLine rawLine output) :
    (∀ piece ∈ (Text.decode rawLine).lines, piece <:+: Runner.captured rawLine ∧
      ∃ number, SourceLocation.read tree path number = .ok ⟨path, number, piece⟩) ∧
    (∀ {number : Int} {location : SourceLocation},
      SourceLocation.read tree path number = .ok location →
      location.text <:+: Runner.captured rawLine → location.text.strip ≠ [] →
      ∀ marker, ∃ found, find? (Runner.captured output) location.text marker = some found ∧
        found.matchedBy = .sourceLine ∧ found.needle = location.text) := by
  constructor
  · intro piece hpiece
    rw [← Text.lines_unifyNewlines] at hpiece
    refine ⟨Text.infix_of_mem_lines hpiece, ?_⟩
    have hlines := Text.infix_lines (Text.standsBetween_decode hline.2)
    rw [← Text.lines_unifyNewlines, ← Text.lines_unifyNewlines (Text.decode source)] at hlines
    exact SourceLocation.exists_read_of_mem_lines hnul hsource (hlines.subset hpiece)
  · intro number location _ hpart hblank marker
    have hwhole := Text.infix_unifyNewlines (Text.standsBetween_decode houtput.2)
    exact exists_find?_of_infix hblank (hpart.trans hwhole) marker

/-- A tree with a file whose first line breaks off within a sequence and ends in a carriage return. -/
def brokenLineTree : FileTree :=
  ⟨["w"], [(["f.c", "w"], .file [0x78, 0xe2, 0x82, 0x0d, 0x0a, 0x7d] false), (["w"], .directory)]⟩

/-- In the listing, the broken line is the last one and is left open. -/
theorem shared_raw_line_is_found_at_broken_sequence :
    (∃ number, SourceLocation.read brokenLineTree (Path.ofText "f.c") number =
      .ok ⟨Path.ofText "f.c", number, "x\ufffd"⟩) ∧
    ∃ found, find? (Runner.captured [0x66, 0x3a, 0x0a, 0x78, 0xe2, 0x82, 0x0d]) "x\ufffd" "f.c:1" =
      some found ∧ found.matchedBy = .sourceLine ∧ found.needle = ("x\ufffd" : String).toList := by
  have hsource : brokenLineTree.readBytes (Path.ofText "f.c").toText =
      .ok [0x78, 0xe2, 0x82, 0x0d, 0x0a, 0x7d] := rfl
  have hline : IsRawLine [0x78, 0xe2, 0x82, 0x0d] [0x78, 0xe2, 0x82, 0x0d, 0x0a, 0x7d] :=
    ⟨by decide, [], [0x0a, 0x7d], rfl, .inl rfl, .inr ⟨[0x7d], rfl⟩⟩
  have houtput : IsRawLine [0x78, 0xe2, 0x82, 0x0d] [0x66, 0x3a, 0x0a, 0x78, 0xe2, 0x82, 0x0d] :=
    ⟨by decide, [0x66, 0x3a, 0x0a], [], rfl, .inr ⟨[0x66, 0x3a], rfl⟩, .inl rfl⟩
  have hread : SourceLocation.read brokenLineTree (Path.ofText "f.c") 1 =
      .ok ⟨Path.ofText "f.c", 1, "x\ufffd"⟩ := rfl
  obtain ⟨hpieces, hfound⟩ := shared_raw_line_is_found (by decide) hsource hline houtput
  exact ⟨(hpieces "x\ufffd" (by decide)).2, hfound hread ⟨[], ['\n'], by decide⟩ (by decide) "f.c:1"⟩

end ListingMatch

end AsmLens
