import AsmLens.Listing.Line
import AsmLens.Proofs.LineSpan
import AsmLens.Proofs.RawLine

/-!
# The lines of a listing

A listing is made of its lines and what breaks them apart, and in one way only. A line holds an
instruction if it reads so from its start: blanks, an address, a colon and one more blank.
-/

namespace AsmLens

namespace Text

/-- What stands between a line and the rest of the text. A carriage return takes a line feed along, so it
is a break by itself only where none follows. -/
inductive IsBreak : Text → Text → Prop
  | paired {rest : Text} : IsBreak ['\r', '\n'] rest
  | single {c : Char} {rest : Text} (hc : isLineEnd c = true)
      (hrest : c = '\r' → rest.head? ≠ some '\n') : IsBreak [c] rest

/-- A text made of lines with a break after each, where the last line can do without if it is not
empty. -/
inductive MadeOf : Text → List Text → Prop
  | nil : MadeOf [] []
  | unbroken {line : Text} (hne : line ≠ []) (hfree : ∀ c ∈ line, isLineEnd c = false) :
      MadeOf line [line]
  | broken {line ending rest : Text} {lines : List Text} (hfree : ∀ c ∈ line, isLineEnd c = false)
      (hending : IsBreak ending rest) (hrest : MadeOf rest lines) :
      MadeOf (line ++ (ending ++ rest)) (line :: lines)

variable {text line ending rest : Text} {found : List Text}

theorem IsBreak.lines_append (hending : IsBreak ending rest) :
    lines (ending ++ rest) = [] :: rest.lines := by
  cases hending with
  | paired => rfl
  | single hc hrest => exact lines_cons_of_isLineEnd hc hrest

theorem lines_append_break (hfree : ∀ c ∈ line, isLineEnd c = false) (hending : IsBreak ending rest) :
    lines (line ++ (ending ++ rest)) = line :: rest.lines := by
  induction line with
  | nil => exact hending.lines_append
  | cons c line ih =>
      obtain ⟨hc, hfree⟩ := List.forall_mem_cons.mp hfree
      rw [List.cons_append, lines_cons_of_not_isLineEnd (by simp [hc]), ih hfree]

theorem lines_of_unbroken (hne : line ≠ []) (hfree : ∀ c ∈ line, isLineEnd c = false) :
    lines line = [line] := by
  induction line with
  | nil => contradiction
  | cons c line ih =>
      obtain ⟨hc, hfree⟩ := List.forall_mem_cons.mp hfree
      rw [lines_cons_of_not_isLineEnd (by simp [hc])]
      cases line with
      | nil => rfl
      | cons d line => rw [ih (List.cons_ne_nil _ _) hfree]

theorem MadeOf.lengthen {c : Char} (hc : isLineEnd c = false) (hmade : MadeOf text (line :: found)) :
    MadeOf (c :: text) ((c :: line) :: found) := by
  cases hmade with
  | unbroken _ hfree =>
      exact .unbroken (List.cons_ne_nil _ _) (List.forall_mem_cons.mpr ⟨hc, hfree⟩)
  | broken hfree hending hrest =>
      exact .broken (List.forall_mem_cons.mpr ⟨hc, hfree⟩) hending hrest

theorem madeOf_lines (text : Text) : text.MadeOf text.lines := by
  unfold lines
  fun_induction segments text with
  | case1 => exact .nil
  | case2 rest ih => exact .broken (List.forall_mem_nil _) .paired ih
  | case3 c rest hpair hc ih =>
      refine .broken (List.forall_mem_nil _) (.single hc fun hreturn hhead => ?_) ih
      obtain ⟨more, rfl⟩ := List.head?_eq_some_iff.mp hhead
      exact hpair more hreturn rfl
  | case4 c rest _ hc hnone ih =>
      obtain rfl : rest = [] := not_imp_comm.mp segments_ne_nil (not_not_intro hnone)
      exact .unbroken (List.cons_ne_nil _ _) (List.forall_mem_singleton.mpr (Bool.eq_false_iff.mpr hc))
  | case5 c rest _ hc segment more hrest ih =>
      rw [hrest] at ih
      exact ih.lengthen (Bool.eq_false_iff.mpr hc)

/-- The lines of a text are those that it is made of, and no other ones. -/
theorem madeOf_iff : text.MadeOf found ↔ text.lines = found := by
  constructor
  · intro hmade
    induction hmade with
    | nil => rfl
    | unbroken hne hfree => exact lines_of_unbroken hne hfree
    | broken hfree hending _ ih => rw [lines_append_break hfree hending, ih]
  · rintro rfl
    exact madeOf_lines text

/-- Lines that are written one below the other are read again as they are. -/
theorem lines_flatMap_lineFeed (hfree : ∀ line ∈ found, ∀ c ∈ line, isLineEnd c = false) :
    lines (found.flatMap fun line => line ++ ['\n']) = found := by
  induction found with
  | nil => rfl
  | cons line found ih =>
      obtain ⟨hline, hfound⟩ := List.forall_mem_cons.mp hfree
      have hending : IsBreak ['\n'] (found.flatMap fun line => line ++ ['\n']) :=
        .single (by decide) (by simp)
      rw [List.flatMap_cons, List.append_assoc, lines_append_break hline hending, ih hfound]

end Text

namespace ListingLine

variable {line rest : Text}

theorem not_isBlank_of_isHexDigit {c : Char} (hc : isHexDigit c = true) : Text.isBlank c = false := by
  have hall : "0123456789abcdefABCDEF".toList.all (fun d => !Text.isBlank d) = true := by decide
  simpa using List.all_eq_true.mp hall c (List.contains_iff_mem.mp hc)

theorem closesAddress_iff :
    closesAddress line = true ↔ ∃ c rest, line = ':' :: c :: rest ∧ Text.isBlank c = true := by
  constructor
  · intro hcloses
    unfold closesAddress at hcloses
    split at hcloses
    · next c rest => exact ⟨c, rest, rfl, hcloses⟩
    · cases hcloses
  · rintro ⟨c, rest, rfl, hc⟩
    exact hc

theorem startsWithAddress_iff :
    startsWithAddress line = true ↔
      ∃ address c rest, line = address ++ ':' :: c :: rest ∧ address ≠ [] ∧
        (∀ d ∈ address, isHexDigit d = true) ∧ Text.isBlank c = true := by
  constructor
  · intro hstarts
    cases line with
    | nil => cases hstarts
    | cons d line =>
        rw [startsWithAddress, Bool.and_eq_true, closesAddress_iff] at hstarts
        obtain ⟨hd, c, rest, hline, hc⟩ := hstarts
        refine ⟨d :: line.takeWhile isHexDigit, c, rest, ?_, List.cons_ne_nil _ _, ?_, hc⟩
        · rw [List.cons_append, ← hline, List.takeWhile_append_dropWhile]
        · exact List.forall_mem_cons.mpr ⟨hd, List.all_eq_true.mp List.all_takeWhile⟩
  · rintro ⟨address, c, rest, rfl, hne, haddress, hc⟩
    obtain ⟨d, address, rfl⟩ := List.exists_cons_of_ne_nil hne
    obtain ⟨hd, haddress⟩ := List.forall_mem_cons.mp haddress
    have hcolon : ¬ isHexDigit ':' = true := by decide
    rw [List.cons_append, startsWithAddress, hd, List.dropWhile_append_of_pos haddress,
      List.dropWhile_cons_of_neg hcolon]
    exact hc

theorem marksInstruction_iff :
    marksInstruction line = true ↔
      ∃ blanks address c rest, line = blanks ++ (address ++ ':' :: c :: rest) ∧
        blanks ≠ [] ∧ (∀ b ∈ blanks, Text.isBlank b = true) ∧
        address ≠ [] ∧ (∀ d ∈ address, isHexDigit d = true) ∧ Text.isBlank c = true := by
  constructor
  · intro hmarks
    cases line with
    | nil => cases hmarks
    | cons b line =>
        rw [marksInstruction, Bool.and_eq_true, startsWithAddress_iff] at hmarks
        obtain ⟨hb, address, c, rest, hline, haddress⟩ := hmarks
        refine ⟨b :: line.takeWhile Text.isBlank, address, c, rest, ?_, List.cons_ne_nil _ _, ?_,
          haddress⟩
        · rw [List.cons_append, ← hline, List.takeWhile_append_dropWhile]
        · exact List.forall_mem_cons.mpr ⟨hb, List.all_eq_true.mp List.all_takeWhile⟩
  · rintro ⟨blanks, address, c, rest, rfl, hne, hblanks, haddress⟩
    obtain ⟨b, blanks, rfl⟩ := List.exists_cons_of_ne_nil hne
    obtain ⟨hb, hblanks⟩ := List.forall_mem_cons.mp hblanks
    -- An address starts with a digit, which is no blank, so the blanks end before it.
    have hdrop : (address ++ ':' :: c :: rest).dropWhile Text.isBlank = address ++ ':' :: c :: rest := by
      obtain ⟨d, digits, rfl⟩ := List.exists_cons_of_ne_nil haddress.1
      have hd := not_isBlank_of_isHexDigit (haddress.2.1 d List.mem_cons_self)
      exact List.dropWhile_cons_of_neg (by simp [hd])
    rw [List.cons_append, marksInstruction, hb, List.dropWhile_append_of_pos hblanks, hdrop,
      Bool.true_and, startsWithAddress_iff]
    exact ⟨address, c, rest, rfl, haddress⟩

end ListingLine

namespace Text

theorem map_text_listingLines (text : Text) : text.listingLines.map ListingLine.text = text.lines := by
  rw [listingLines, List.map_map]
  exact List.map_id _

theorem listingLines_append_lineFeed (first rest : Text) :
    (first ++ '\n' :: rest).listingLines = (first ++ ['\n']).listingLines ++ rest.listingLines := by
  rw [listingLines, lines_append_lineFeed, List.map_append]
  rfl

theorem mem_listingLines {text : Text} {line : ListingLine} (hline : line ∈ text.listingLines) :
    line.text ∈ text.lines ∧ line.isInstruction = ListingLine.marksInstruction line.text := by
  obtain ⟨own, hown, rfl⟩ := List.mem_map.mp hline
  exact ⟨hown, rfl⟩

/-- A listing is made of its lines; how they go on after a line feed does not depend on what comes
before; and written one below the other they are read again. Those with an instruction are told by how
they begin. -/
theorem listing_is_made_of_lines :
    (∀ (text : Text) (found : List Text),
      text.MadeOf found ↔ text.listingLines.map ListingLine.text = found) ∧
    (∀ first rest : Text, (first ++ '\n' :: rest).listingLines =
      (first ++ ['\n']).listingLines ++ rest.listingLines) ∧
    (∀ text : Text, listingLines (text.listingLines.flatMap fun line => line.text ++ ['\n']) =
      text.listingLines) ∧
    (∀ text : Text, ∀ line ∈ text.listingLines,
      (∀ c ∈ line.text, isLineEnd c = false) ∧
      (line.isInstruction = true ↔
        ∃ blanks address c rest, line.text = blanks ++ (address ++ ':' :: c :: rest) ∧
          blanks ≠ [] ∧ (∀ b ∈ blanks, isBlank b = true) ∧
          address ≠ [] ∧ (∀ d ∈ address, ListingLine.isHexDigit d = true) ∧ isBlank c = true)) := by
  refine ⟨?_, listingLines_append_lineFeed, ?_, ?_⟩
  · intro text found
    rw [map_text_listingLines]
    exact madeOf_iff
  · intro text
    have hfree : ∀ line ∈ text.lines, ∀ c ∈ line, isLineEnd c = false :=
      fun _ hline _ hc => not_isLineEnd_of_mem_lines hline hc
    have hwritten : (text.listingLines.flatMap fun line => line.text ++ ['\n']) =
        text.lines.flatMap fun line => line ++ ['\n'] := by
      rw [← map_text_listingLines, List.flatMap_map]
    rw [hwritten, listingLines, lines_flatMap_lineFeed hfree, listingLines]
  · intro text line hline
    obtain ⟨hmem, hkind⟩ := mem_listingLines hline
    rw [hkind]
    exact ⟨fun c hc => not_isLineEnd_of_mem_lines hmem hc, ListingLine.marksInstruction_iff⟩

theorem listing_is_made_of_lines_with_odd_blanks :
    MadeOf "a\r\n\x0c 1f:\tret\r \x1f9:\u00a0x" ["a", [], " 1f:\tret", " \x1f9:\u00a0x"] ∧
    listingLines ("a\r" ++ '\n' :: " 1f:\tret".toList) =
      listingLines ("a\r" ++ ['\n']) ++ listingLines " 1f:\tret" ∧
    ∃ line ∈ listingLines "a\r\n\x0c 1f:\tret\r \x1f9:\u00a0x",
      line.text = " \x1f9:\u00a0x" ∧ (∀ c ∈ line.text, isLineEnd c = false) ∧
        line.isInstruction = true := by
  obtain ⟨hmade, happend, _, hlines⟩ := listing_is_made_of_lines
  have hline : (⟨" \x1f9:\u00a0x", true⟩ : ListingLine) ∈
      listingLines "a\r\n\x0c 1f:\tret\r \x1f9:\u00a0x" := by decide
  obtain ⟨hfree, hinstruction⟩ := hlines _ _ hline
  refine ⟨(hmade _ _).mpr (by decide), happend _ _, _, hline, rfl, hfree, hinstruction.mpr ?_⟩
  have hblanks : ∀ b ∈ (" \x1f" : Text), isBlank b = true := List.all_eq_true.mp (by decide)
  have haddress : ∀ d ∈ ("9" : Text), ListingLine.isHexDigit d = true := List.all_eq_true.mp (by decide)
  exact ⟨_, _, '\u00a0', "x", rfl, by decide, hblanks, by decide, haddress, by decide⟩

end Text

end AsmLens
