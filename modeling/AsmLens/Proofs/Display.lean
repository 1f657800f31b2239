import AsmLens.Proofs.LineSpan
import AsmLens.Proofs.RawLine
import AsmLens.View.Plain
import AsmLens.View.Styled

/-!
# The two displays of a listing

With a marked line, the plain display and the styled one write the same lines of the listing, one line
each and in the same order. What the plain display says with its gutter the styled one says with the
looks of the line, and the characters are the same but for tabs and the control characters that move a
terminal's cursor.
-/

namespace AsmLens

namespace Text

/-- The line is shown with each of its tabs as spaces, and without its bells and backspaces. -/
inductive Expands : Text → Text → Prop where
  | nil : Expands [] []
  | keep {c : Char} {line shown : Text} (hdropped : View.isDropped c = false) (htab : c ≠ '\t') :
      Expands line shown → Expands (c :: line) (c :: shown)
  | tab {width : Nat} {line shown : Text} (hpositive : 0 < width) (hwidth : width ≤ View.tabSize) :
      Expands line shown → Expands ('\t' :: line) (List.replicate width ' ' ++ shown)
  | drop {c : Char} {line shown : Text} (hcontrol : c = '\x07' ∨ c = '\x08') :
      Expands line shown → Expands (c :: line) shown

namespace Expands

theorem append {first second firstShown secondShown : Text} (hfirst : Expands first firstShown)
    (hsecond : Expands second secondShown) : Expands (first ++ second) (firstShown ++ secondShown) := by
  induction hfirst with
  | nil => exact hsecond
  | keep hdropped htab _ ih => exact .keep hdropped htab ih
  | tab hpositive hwidth _ ih =>
      rw [List.append_assoc]
      exact .tab hpositive hwidth ih
  | drop hcontrol _ ih => exact .drop hcontrol ih

/-- Nothing but spaces comes in. -/
theorem mem_or_space {line shown : Text} (hexpands : Expands line shown) {c : Char} (hc : c ∈ shown) :
    c ∈ line ∨ c = ' ' := by
  induction hexpands with
  | nil => simp at hc
  | keep _ _ _ ih =>
      rcases List.mem_cons.mp hc with rfl | hc
      · exact .inl List.mem_cons_self
      · exact (ih hc).imp_left (List.mem_cons_of_mem _)
  | tab _ _ _ ih =>
      rcases List.mem_append.mp hc with hc | hc
      · exact .inr (List.eq_of_mem_replicate hc)
      · exact (ih hc).imp_left (List.mem_cons_of_mem _)
  | drop _ _ ih => exact (ih hc).imp_left (List.mem_cons_of_mem _)

theorem of_no_tab {text : Text} (hdropped : ∀ c ∈ text, View.isDropped c = false) (htab : '\t' ∉ text) :
    Expands text text := by
  induction text with
  | nil => exact .nil
  | cons c rest ih =>
      obtain ⟨hc, hrest⟩ := List.forall_mem_cons.mp hdropped
      exact .keep hc (List.ne_of_not_mem_cons htab).symm (ih hrest (List.not_mem_of_not_mem_cons htab))

end Expands

/-! ### Lines that were cut out of a text -/

theorem segments_line_append {line : Text} (hline : ∀ c ∈ line, isLineEnd c = false) (rest : Text) :
    segments (line ++ '\n' :: rest) = ⟨line, ['\n']⟩ :: segments rest := by
  induction line with
  | nil => exact segments_cons_of_isLineEnd (by decide) (by simp)
  | cons c line ih =>
      obtain ⟨hc, hmore⟩ := List.forall_mem_cons.mp hline
      rw [List.cons_append, segments_cons_of_not_isLineEnd (by simp [hc]), ih hmore]

/-- Lines that are written one after the other are read back as they are. -/
theorem segments_flatMap_line {α : Type} {items : List α} {line : α → Text}
    (hline : ∀ item ∈ items, ∀ c ∈ line item, isLineEnd c = false) :
    segments (items.flatMap fun item => line item ++ ['\n']) =
      items.map fun item => ⟨line item, ['\n']⟩ := by
  induction items with
  | nil => rfl
  | cons item items ih =>
      obtain ⟨hitem, hitems⟩ := List.forall_mem_cons.mp hline
      rw [List.flatMap_cons, List.append_assoc, List.singleton_append, segments_line_append hitem,
        ih hitems, List.map_cons]

end Text

namespace View

/-! ### Tabs -/

theorem flatten_tabStops (text : Text) : (tabStops text).flatten = text := by
  fun_induction tabStops text with
  | case1 => rfl
  | case2 rest ih => simp [ih]
  | case3 c rest _ hrest ih =>
      rw [hrest] at ih
      simp [← ih]
  | case4 c rest _ stop stops hrest ih =>
      rw [hrest] at ih
      simp [← ih]

/-- A tab stands at the end of its part only. -/
theorem tab_not_mem_dropLast_of_mem_tabStops {text part : Text} (hpart : part ∈ tabStops text) :
    part ≠ [] ∧ '\t' ∉ part.dropLast := by
  fun_induction tabStops text generalizing part with
  | case1 => simp at hpart
  | case2 rest ih =>
      rcases List.mem_cons.mp hpart with rfl | hpart
      · simp
      · exact ih hpart
  | case3 c rest _ _ _ =>
      rw [List.mem_singleton] at hpart
      simp [hpart]
  | case4 c rest hc stop stops hrest ih =>
      rcases List.mem_cons.mp hpart with rfl | hpart
      · obtain ⟨hne, htab⟩ := ih (hrest ▸ List.mem_cons_self)
        rw [List.dropLast_cons_of_ne_nil hne]
        exact ⟨List.cons_ne_nil _ _, List.not_mem_cons_of_ne_of_not_mem (Ne.symm hc) htab⟩
      · exact ih (hrest ▸ List.mem_cons_of_mem _ hpart)

/-- A closing tab is as wide as the way to the next tab stop. -/
theorem exists_expandTab_eq (column : Nat) {part : Text} (htab : part.getLast? = some '\t') :
    ∃ width, 0 < width ∧ width ≤ tabSize ∧
      expandTab column part = part.dropLast ++ List.replicate width ' ' := by
  simp only [expandTab, if_pos htab]
  split
  · exact ⟨1, by decide, by decide, rfl⟩
  · rename_i hrest
    have hcolumn := Nat.mod_lt (column + Text.cells (part.dropLast ++ [' '])) (show 0 < tabSize by decide)
    refine ⟨1 + (tabSize - (column + Text.cells (part.dropLast ++ [' '])) % tabSize), ?_, ?_, ?_⟩
    · omega
    · omega
    · rw [List.replicate_add, List.append_assoc]
      rfl

theorem expandTab_ne_nil (column : Nat) {part : Text} (hpart : part ≠ []) : expandTab column part ≠ [] := by
  by_cases htab : part.getLast? = some '\t'
  · obtain ⟨width, hpositive, _, heq⟩ := exists_expandTab_eq column htab
    rw [heq]
    simp
    omega
  · rwa [expandTab, if_neg htab]

theorem expands_expandTab (column : Nat) {part : Text} (hdropped : ∀ c ∈ part, isDropped c = false)
    (htab : '\t' ∉ part.dropLast) : Text.Expands part (expandTab column part) := by
  by_cases hlast : part.getLast? = some '\t'
  · obtain ⟨width, hpositive, hwidth, heq⟩ := exists_expandTab_eq column hlast
    have hpart : part = part.dropLast ++ ['\t'] := (List.dropLast_append_getLast? _ hlast).symm
    have hfront : Text.Expands part.dropLast part.dropLast :=
      .of_no_tab (fun c hc => hdropped c (List.mem_of_mem_dropLast hc)) htab
    have hclosing : Text.Expands ['\t'] (List.replicate width ' ') := by
      simpa using Text.Expands.tab hpositive hwidth .nil
    rw [heq]
    conv => arg 1; rw [hpart]
    exact hfront.append hclosing
  · rw [expandTab, if_neg hlast]
    refine .of_no_tab hdropped fun hmem => ?_
    rcases List.eq_nil_or_concat part with rfl | ⟨front, c, rfl⟩
    · simp at hmem
    · rw [List.concat_eq_append, List.dropLast_concat] at htab
      rw [List.concat_eq_append, List.getLast?_concat] at hlast
      rcases List.mem_append.mp (List.concat_eq_append ▸ hmem) with hmem | hmem
      · exact htab hmem
      · exact hlast (congrArg some (List.mem_singleton.mp hmem).symm)

theorem expands_expandTabs (column : Nat) {parts : List Text}
    (hdropped : ∀ part ∈ parts, ∀ c ∈ part, isDropped c = false)
    (htab : ∀ part ∈ parts, '\t' ∉ part.dropLast) :
    Text.Expands parts.flatten (expandTabs column parts).flatten := by
  induction parts generalizing column with
  | nil => exact .nil
  | cons part parts ih =>
      obtain ⟨hpart, hparts⟩ := List.forall_mem_cons.mp hdropped
      obtain ⟨htabPart, htabParts⟩ := List.forall_mem_cons.mp htab
      exact (expands_expandTab column hpart htabPart).append (ih _ hparts htabParts)

theorem ne_nil_of_mem_expandTabs {column : Nat} {parts : List Text} (hparts : ∀ part ∈ parts, part ≠ [])
    {text : Text} (htext : text ∈ expandTabs column parts) : text ≠ [] := by
  induction parts generalizing column with
  | nil => simp [expandTabs] at htext
  | cons part parts ih =>
      obtain ⟨hpart, hmore⟩ := List.forall_mem_cons.mp hparts
      rcases List.mem_cons.mp htext with rfl | htext
      · exact expandTab_ne_nil column hpart
      · exact ih hmore htext

/-! ### One line -/

/-- Of the characters that a terminal does not show, a line holds bells and backspaces only: the others
end a line. -/
theorem bell_or_backspace_of_isDropped {c : Char} (hdropped : isDropped c = true)
    (hline : Text.isLineEnd c = false) : c = '\x07' ∨ c = '\x08' := by
  have hmem : c ∈ ['\x07', '\x08', '\x0b', '\x0c', '\r'] := by simpa [isDropped] using hdropped
  simp only [List.mem_cons, List.not_mem_nil, or_false] at hmem
  rcases hmem with rfl | rfl | rfl | rfl | rfl
  · exact .inl rfl
  · exact .inr rfl
  · exact absurd hline (by decide)
  · exact absurd hline (by decide)
  · exact absurd hline (by decide)

theorem expands_of_filter {line shown : Text} (hline : ∀ c ∈ line, Text.isLineEnd c = false)
    (hexpands : Text.Expands (line.filter fun c => !isDropped c) shown) : Text.Expands line shown := by
  induction line generalizing shown with
  | nil => exact hexpands
  | cons c line ih =>
      obtain ⟨hc, hrest⟩ := List.forall_mem_cons.mp hline
      cases hdropped : isDropped c with
      | true =>
          rw [List.filter_cons_of_neg (by simp [hdropped])] at hexpands
          exact .drop (bell_or_backspace_of_isDropped hdropped hc) (ih hrest hexpands)
      | false =>
          rw [List.filter_cons_of_pos (by simp [hdropped])] at hexpands
          cases hexpands with
          | keep _ htab hmore => exact .keep hdropped htab (ih hrest hmore)
          | tab hpositive hwidth hmore => exact .tab hpositive hwidth (ih hrest hmore)
          | drop hcontrol _ =>
              rcases hcontrol with rfl | rfl <;> exact absurd hdropped (by decide)

theorem expands_shownParts {line : Text} (hline : ∀ c ∈ line, Text.isLineEnd c = false) :
    Text.Expands line (shownParts line).flatten := by
  refine expands_of_filter hline ?_
  have hwhole := flatten_tabStops (line.filter fun c => !isDropped c)
  conv => arg 1; rw [← hwhole]
  refine expands_expandTabs 0 (fun part hpart c hc => ?_)
    fun part hpart => (tab_not_mem_dropLast_of_mem_tabStops hpart).2
  have hmem : c ∈ line.filter fun c => !isDropped c := hwhole ▸ List.mem_flatten.mpr ⟨part, hpart, hc⟩
  simpa using (List.mem_filter.mp hmem).2

theorem ne_nil_of_mem_shownParts {line part : Text} (hpart : part ∈ shownParts line) : part ≠ [] :=
  ne_nil_of_mem_expandTabs (fun _ hstop => (tab_not_mem_dropLast_of_mem_tabStops hstop).1) hpart

theorem rowStyle_eq_marked_iff {row : Row} : rowStyle row = .marked ↔ row.isMarked = true := by
  cases hmarked : row.isMarked <;> cases hkind : row.line.isInstruction <;>
    simp [rowStyle, hmarked, hkind]

theorem rowStyle_eq_shadow_iff {row : Row} :
    rowStyle row = .shadow ↔ row.isMarked = false ∧ row.line.isInstruction = false := by
  cases hmarked : row.isMarked <;> cases hkind : row.line.isInstruction <;>
    simp [rowStyle, hmarked, hkind]

theorem rowStyle_eq_none_iff {row : Row} :
    rowStyle row = .none ↔ row.isMarked = false ∧ row.line.isInstruction = true := by
  cases hmarked : row.isMarked <;> cases hkind : row.line.isInstruction <;>
    simp [rowStyle, hmarked, hkind]

/-- What the two displays write for one line of a listing: the line behind its gutter, and its spans. -/
structure Twin where
  index : Nat
  line : ListingLine
  gutter : Text
  spans : List Span

namespace Twin

def plainText (twin : Twin) : Text :=
  twin.gutter ++ twin.line.text

def styledText (twin : Twin) : Text :=
  twin.spans.flatMap Span.render

/-- The characters of the styled line without the sequences for its style. -/
def shownText (twin : Twin) : Text :=
  twin.spans.flatMap Span.text

/-- The gutter and the looks of the line say the same, and the same characters are shown. -/
structure Agrees (twin : Twin) (marked : Int) : Prop where
  gutter_eq : twin.gutter = if marked = twin.index then "=> ".toList else "   ".toList
  marked_iff : ∀ span ∈ twin.spans, span.style = .marked ↔ twin.gutter = "=> ".toList
  shadow_iff : ∀ span ∈ twin.spans,
    span.style = .shadow ↔ marked ≠ twin.index ∧ twin.line.isInstruction = false
  none_iff : ∀ span ∈ twin.spans,
    span.style = .none ↔ marked ≠ twin.index ∧ twin.line.isInstruction = true
  text_ne_nil : ∀ span ∈ twin.spans, span.text ≠ []
  expands : Text.Expands twin.line.text twin.shownText

/-- The lines that both displays write for a line of the listing. -/
def ofLine (marked : Int) (index : Nat) (line : ListingLine) : Twin :=
  let row : Row := ⟨line, decide (some marked = some (index : Int))⟩
  ⟨index, line, View.gutter row.isMarked, rowSpans row⟩

theorem shownText_ofLine (marked : Int) (index : Nat) (line : ListingLine) :
    (ofLine marked index line).shownText = (shownParts line.text).flatten := by
  simp only [shownText, ofLine, rowSpans, List.flatMap_map]
  exact List.flatMap_id

theorem agrees_ofLine (marked : Int) (index : Nat) {line : ListingLine}
    (hline : ∀ c ∈ line.text, Text.isLineEnd c = false) : (ofLine marked index line).Agrees marked := by
  have hstyle : ∀ span ∈ (ofLine marked index line).spans,
      span.style = rowStyle ⟨line, decide (some marked = some (index : Int))⟩ := by
    intro span hspan
    obtain ⟨part, _, rfl⟩ := List.mem_map.mp hspan
    rfl
  refine ⟨?_, ?_, ?_, ?_, ?_, ?_⟩
  · by_cases heq : marked = index <;> simp [ofLine, View.gutter, heq]
  · intro span hspan
    rw [hstyle span hspan, rowStyle_eq_marked_iff]
    by_cases heq : marked = index <;> simp [ofLine, View.gutter, heq]
  · intro span hspan
    rw [hstyle span hspan, rowStyle_eq_shadow_iff]
    simp [ofLine]
  · intro span hspan
    rw [hstyle span hspan, rowStyle_eq_none_iff]
    simp [ofLine]
  · intro span hspan
    obtain ⟨part, hpart, rfl⟩ := List.mem_map.mp hspan
    exact ne_nil_of_mem_shownParts hpart
  · rw [shownText_ofLine]
    exact expands_shownParts hline

theorem not_isLineEnd_of_mem_plainText {twin : Twin} {marked : Int} (hagrees : twin.Agrees marked)
    (hline : ∀ c ∈ twin.line.text, Text.isLineEnd c = false) {c : Char} (hc : c ∈ twin.plainText) :
    Text.isLineEnd c = false := by
  have hall : ("=> ".toList ++ "   ".toList).all (fun d => !Text.isLineEnd d) = true := by decide
  have hgutters : ∀ d ∈ "=> ".toList ++ "   ".toList, Text.isLineEnd d = false := fun d hd => by
    simpa using List.all_eq_true.mp hall d hd
  rcases List.mem_append.mp hc with hc | hc
  · rw [hagrees.gutter_eq] at hc
    split at hc
    · exact hgutters c (List.mem_append_left _ hc)
    · exact hgutters c (List.mem_append_right _ hc)
  · exact hline c hc

/-- The sequences of a style end no line. -/
theorem not_isLineEnd_of_mem_render {span : Span} {c : Char} (hc : c ∈ span.render)
    (htext : c ∈ span.text → Text.isLineEnd c = false) : Text.isLineEnd c = false := by
  have hall : ∀ style : Style, ∀ code, style.code? = some code →
      ("\x1b[".toList ++ code ++ "m".toList ++ "\x1b[0m".toList).all (fun d => !Text.isLineEnd d) =
        true := by
    intro style code hcode
    cases style <;> simp only [Style.code?, reduceCtorEq, Option.some.injEq] at hcode <;>
      subst hcode <;> decide
  have hsequences : ∀ style : Style, ∀ code, style.code? = some code →
      ∀ d ∈ "\x1b[".toList ++ code ++ "m".toList ++ "\x1b[0m".toList, Text.isLineEnd d = false :=
    fun style code hcode d hd => by simpa using List.all_eq_true.mp (hall style code hcode) d hd
  unfold Span.render at hc
  split at hc
  · exact htext hc
  · rename_i code hcode
    have hsequence := hsequences span.style code hcode c
    simp only [List.mem_append] at hc hsequence
    tauto

theorem not_isLineEnd_of_mem_styledText {twin : Twin} {marked : Int} (hagrees : twin.Agrees marked)
    (hline : ∀ c ∈ twin.line.text, Text.isLineEnd c = false) {c : Char} (hc : c ∈ twin.styledText) :
    Text.isLineEnd c = false := by
  obtain ⟨span, hspan, hc⟩ := List.mem_flatMap.mp hc
  refine not_isLineEnd_of_mem_render hc fun htext => ?_
  rcases hagrees.expands.mem_or_space (List.mem_flatMap.mpr ⟨span, hspan, htext⟩) with hmem | rfl
  · exact hline c hmem
  · decide

end Twin

/-! ### The whole listing -/

def shownLines (view : View) : List (ListingLine × Nat) :=
  view.listing.listingLines.zipIdx.filter fun entry =>
    (view.window view.listing.listingLines.length).holds entry.2

theorem map_snd_shownLines (view : View) :
    view.shownLines.map Prod.snd =
      (List.range view.listing.listingLines.length).filter
        (view.window view.listing.listingLines.length).holds := by
  have hindexes := List.zipIdx_map_snd 0 view.listing.listingLines
  rw [← List.range_eq_range'] at hindexes
  rw [← hindexes, List.filter_map]
  rfl

theorem getElem?_of_mem_shownLines {view : View} {entry : ListingLine × Nat}
    (hentry : entry ∈ view.shownLines) : view.listing.listingLines[entry.2]? = some entry.1 :=
  List.mem_zipIdx_iff_getElem?.mp (List.mem_filter.mp hentry).1

theorem rows_eq {view : View} {marked : Int} (hmarked : view.marked = some marked) :
    view.rows = view.shownLines.map fun entry =>
      ⟨entry.1, decide (some marked = some (entry.2 : Int))⟩ := by
  rw [rows, hmarked]
  rfl

/-- Around a marked line both displays write the same lines of the listing, each as one line, and the
lines agree. -/
theorem displays_agree {view : View} {marked : Int} (hmarked : view.marked = some marked) :
    ∃ twins : List Twin,
      view.plain.segments = twins.map (fun twin => ⟨twin.plainText, ['\n']⟩) ∧
      view.styled.segments = twins.map (fun twin => ⟨twin.styledText, ['\n']⟩) ∧
      twins.map Twin.index = (List.range view.listing.lines.length).filter
        (view.window view.listing.lines.length).holds ∧
      ∀ twin ∈ twins, view.listing.listingLines[twin.index]? = some twin.line ∧ twin.Agrees marked := by
  have hlength : view.listing.listingLines.length = view.listing.lines.length := List.length_map _
  have hfree : ∀ entry ∈ view.shownLines, ∀ c ∈ entry.1.text, Text.isLineEnd c = false := by
    intro entry hentry c hc
    have hmem := List.mem_of_getElem? (getElem?_of_mem_shownLines hentry)
    obtain ⟨line, hline, heq⟩ := List.mem_map.mp hmem
    rw [← heq] at hc
    exact Text.not_isLineEnd_of_mem_lines hline hc
  have hagrees : ∀ entry ∈ view.shownLines, (Twin.ofLine marked entry.2 entry.1).Agrees marked :=
    fun entry hentry => Twin.agrees_ofLine marked entry.2 (hfree entry hentry)
  refine ⟨view.shownLines.map fun entry => Twin.ofLine marked entry.2 entry.1, ?_, ?_, ?_, ?_⟩
  · have hplain : view.plain = view.shownLines.flatMap fun entry =>
        (Twin.ofLine marked entry.2 entry.1).plainText ++ ['\n'] := by
      simp only [plain, hmarked, rows_eq hmarked, List.flatMap_map]
      exact List.flatMap_congr fun _ _ => rfl
    rw [hplain, Text.segments_flatMap_line, List.map_map]
    · rfl
    · intro entry hentry c hc
      exact Twin.not_isLineEnd_of_mem_plainText (hagrees entry hentry) (hfree entry hentry) hc
  · have hstyled : view.styled = view.shownLines.flatMap fun entry =>
        (Twin.ofLine marked entry.2 entry.1).styledText ++ ['\n'] := by
      simp only [styled, rows_eq hmarked, List.flatMap_map]
      rfl
    rw [hstyled, Text.segments_flatMap_line, List.map_map]
    · rfl
    · intro entry hentry c hc
      exact Twin.not_isLineEnd_of_mem_styledText (hagrees entry hentry) (hfree entry hentry) hc
  · rw [List.map_map, ← hlength, ← map_snd_shownLines]
    rfl
  · intro twin htwin
    obtain ⟨entry, hentry, rfl⟩ := List.mem_map.mp htwin
    exact ⟨getElem?_of_mem_shownLines hentry, hagrees entry hentry⟩

/-- A source line with a bell in it, between the name of its file and an instruction. -/
def bellView : View where
  listing := "f.c:1\nint\x07 x;\n   0:\tret\n   1:\tnop\n"
  marked := some 1
  context := 1

theorem displays_agree_around_bell :
    ∃ twins : List Twin,
      bellView.plain.segments = twins.map (fun twin => ⟨twin.plainText, ['\n']⟩) ∧
      bellView.styled.segments = twins.map (fun twin => ⟨twin.styledText, ['\n']⟩) ∧
      twins.map Twin.index = [0, 1, 2] ∧
      ∀ twin ∈ twins, bellView.listing.listingLines[twin.index]? = some twin.line ∧ twin.Agrees 1 := by
  have hmarked : bellView.marked = some 1 := rfl
  obtain ⟨twins, hplain, hstyled, hindexes, htwins⟩ := displays_agree hmarked
  have hwindow : (List.range bellView.listing.lines.length).filter
      (bellView.window bellView.listing.lines.length).holds = [0, 1, 2] := by decide
  exact ⟨twins, hplain, hstyled, hindexes.trans hwindow, htwins⟩

end View

end AsmLens
