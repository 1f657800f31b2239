import AsmLens.Listing.Match
import AsmLens.Runner.Basic
import AsmLens.SourceLocation
import Mathlib.Data.List.Infix

/-!
# Raw lines

A source file and the output of a program are read in the same way: their bytes are decoded, and every
kind of line break becomes a line feed. A line feed breaks off whatever sequence of bytes has begun, so
what stands between two line feeds is read by itself, broken sequences and carriage returns at its
edges included. A raw line that a file and a listing share therefore gives the file lines that are found
in the listing.
-/

namespace AsmLens

/-- A part of a list with nothing before it or a separator, and nothing after it or a separator. -/
def StandsBetween {α : Type} (separator : α) (part whole : List α) : Prop :=
  ∃ before after, whole = before ++ part ++ after ∧
    (before = [] ∨ ∃ more, before = more ++ [separator]) ∧
    (after = [] ∨ ∃ more, after = separator :: more)

/-- A function that starts afresh after a separator, and to which a closing separator only adds, keeps
what stands between separators together. -/
theorem StandsBetween.map_infix {α β : Type} {separator : α} {f : List α → List β}
    (hafresh : ∀ first rest, f (first ++ separator :: rest) = f (first ++ [separator]) ++ f rest)
    (hadds : ∀ part, f part <+: f (part ++ [separator])) {part whole : List α}
    (hpart : StandsBetween separator part whole) : f part <:+: f whole := by
  obtain ⟨before, after, rfl, hbefore, hafter⟩ := hpart
  have hrest : f part <+: f (part ++ after) := by
    rcases hafter with rfl | ⟨more, rfl⟩
    · rw [List.append_nil]
    · rw [hafresh]
      exact (hadds part).trans (List.prefix_append _ _)
  rw [List.append_assoc]
  rcases hbefore with rfl | ⟨more, rfl⟩
  · exact hrest.isInfix
  · rw [List.append_assoc, List.singleton_append, hafresh]
    exact hrest.isInfix.trans (List.suffix_append _ _).isInfix

/-- A maximal run of bytes without a line feed. -/
def IsRawLine (line bytes : List UInt8) : Prop :=
  0x0a ∉ line ∧ StandsBetween 0x0a line bytes

namespace Text

/-! ### Decoding between line feeds -/

/-- No sequence goes on with a byte of ASCII. -/
theorem low_of_begin {byte : UInt8} {sequence : Sequence} (hbegin : (begin byte).2 = some sequence) :
    0x80 ≤ sequence.low := by
  unfold begin at hbegin
  simp only at hbegin
  split_ifs at hbegin <;> cases hbegin <;> simp only <;> decide

theorem decodeFrom_append_lineFeed {state : Option Sequence} (first rest : List UInt8)
    (hstate : ∀ sequence, state = some sequence → 0x80 ≤ sequence.low) :
    decodeFrom state (first ++ 0x0a :: rest) = decodeFrom state first ++ '\n' :: decode rest := by
  induction first generalizing state with
  | nil =>
      cases state with
      | none => rfl
      | some sequence =>
          have hlow := hstate sequence rfl
          have hbreaks : ¬ (sequence.low ≤ 0x0a ∧ 0x0a ≤ sequence.high) := fun hwithin =>
            absurd (UInt8.le_trans hlow hwithin.1) (by decide)
          simp only [List.nil_append, decodeFrom, if_neg hbreaks]
          rfl
  | cons byte first ih =>
      have hbegun : decodeFrom (begin byte).2 (first ++ 0x0a :: rest) =
          decodeFrom (begin byte).2 first ++ '\n' :: decode rest := ih fun _ => low_of_begin
      cases state with
      | none => simp only [List.cons_append, decodeFrom, hbegun, List.append_assoc]
      | some sequence =>
          simp only [List.cons_append, decodeFrom]
          split
          · split
            · rw [ih (by simp), List.cons_append]
            · refine ih fun other hother => ?_
              cases hother
              exact Nat.le_refl _
          · rw [hbegun, List.cons_append, List.append_assoc]

/-- What comes before a line feed is decoded apart from what comes after it. -/
theorem decode_append_lineFeed (first rest : List UInt8) :
    decode (first ++ 0x0a :: rest) = decode first ++ '\n' :: decode rest :=
  decodeFrom_append_lineFeed first rest (by simp)

theorem standsBetween_decode {line bytes : List UInt8} (hline : StandsBetween 0x0a line bytes) :
    StandsBetween '\n' (decode line) (decode bytes) := by
  obtain ⟨before, after, rfl, hbefore, hafter⟩ := hline
  have hrest : ∃ closing, decode (line ++ after) = decode line ++ closing ∧
      (closing = [] ∨ ∃ more, closing = '\n' :: more) := by
    rcases hafter with rfl | ⟨more, rfl⟩
    · exact ⟨[], by simp, .inl rfl⟩
    · exact ⟨_, decode_append_lineFeed line more, .inr ⟨_, rfl⟩⟩
  obtain ⟨closing, hclosing, hends⟩ := hrest
  rw [List.append_assoc]
  rcases hbefore with rfl | ⟨more, rfl⟩
  · exact ⟨[], closing, hclosing, .inl rfl, hends⟩
  · refine ⟨decode more ++ ['\n'], closing, ?_, .inr ⟨_, rfl⟩, hends⟩
    rw [List.append_assoc, List.singleton_append, decode_append_lineFeed, hclosing]
    simp

/-! ### Line breaks between line feeds -/

theorem unifyNewlines_cons_of_ne {c : Char} (hc : c ≠ '\r') (rest : Text) :
    unifyNewlines (c :: rest) = c :: rest.unifyNewlines := by
  rw [unifyNewlines]
  · exact fun _ heq _ => hc heq
  · exact hc

theorem unifyNewlines_append_lineFeed (first rest : Text) :
    (first ++ '\n' :: rest).unifyNewlines = (first ++ ['\n']).unifyNewlines ++ rest.unifyNewlines := by
  fun_induction unifyNewlines first with
  | case1 => rfl
  | case2 more ih => simpa [unifyNewlines] using ih
  | case3 more hmore ih =>
      cases more with
      | nil => rfl
      | cons c more =>
          have hc : c ≠ '\n' := fun heq => hmore more (by rw [heq])
          simpa [unifyNewlines, hc] using ih
  | case4 c more _ hc ih =>
      rw [List.cons_append, List.cons_append, unifyNewlines_cons_of_ne hc, unifyNewlines_cons_of_ne hc,
        ih, List.cons_append]

/-- A line feed after a text makes it at most longer. -/
theorem unifyNewlines_prefix_append_lineFeed (text : Text) :
    text.unifyNewlines <+: (text ++ ['\n']).unifyNewlines := by
  fun_induction unifyNewlines text with
  | case1 => exact List.nil_prefix
  | case2 more ih => simpa [unifyNewlines] using ih
  | case3 more hmore ih =>
      cases more with
      | nil => exact List.prefix_refl _
      | cons c more =>
          have hc : c ≠ '\n' := fun heq => hmore more (by rw [heq])
          simpa [unifyNewlines, hc] using ih
  | case4 c more _ hc ih =>
      rw [List.cons_append, unifyNewlines_cons_of_ne hc]
      exact List.cons_prefix_cons.mpr ⟨rfl, ih⟩

/-- What stands between line feeds is still there after all line breaks have become line feeds. -/
theorem infix_unifyNewlines {part whole : Text} (hpart : StandsBetween '\n' part whole) :
    part.unifyNewlines <:+: whole.unifyNewlines :=
  hpart.map_infix unifyNewlines_append_lineFeed unifyNewlines_prefix_append_lineFeed

/-! ### Lines between line feeds -/

theorem segments_cons_of_isLineEnd {c : Char} (hc : isLineEnd c = true) {rest : Text}
    (hrest : c = '\r' → rest.head? ≠ some '\n') :
    segments (c :: rest) = ⟨[], [c]⟩ :: segments rest := by
  rw [segments, if_pos hc]
  rintro more heq rfl
  exact hrest heq rfl

theorem segments_cons_of_not_isLineEnd {c : Char} (hc : ¬ isLineEnd c = true) (rest : Text) :
    segments (c :: rest) =
      match segments rest with
      | [] => [⟨[c], []⟩]
      | segment :: more => { segment with line := c :: segment.line } :: more := by
  rw [segments]
  · exact if_neg hc
  · rintro more rfl _
    exact hc (by decide)

theorem segments_ne_nil {text : Text} (htext : text ≠ []) : text.segments ≠ [] := by
  intro hnil
  have hwhole := flatMap_segments text
  rw [hnil] at hwhole
  exact htext hwhole.symm

/-- A character that ends no line lengthens the first line, of which there is one. -/
theorem segments_cons_append {c : Char} (hc : ¬ isLineEnd c = true) {first rest whole : Text}
    (hfirst : first ≠ []) (hwhole : whole.segments = first.segments ++ rest.segments) :
    segments (c :: whole) = segments (c :: first) ++ rest.segments := by
  obtain ⟨segment, more, hsegments⟩ := List.exists_cons_of_ne_nil (segments_ne_nil hfirst)
  rw [segments_cons_of_not_isLineEnd hc, segments_cons_of_not_isLineEnd hc, hwhole, hsegments]
  rfl

theorem segments_append_lineFeed (first rest : Text) :
    (first ++ '\n' :: rest).segments = (first ++ ['\n']).segments ++ rest.segments := by
  fun_induction segments first with
  | case1 => rfl
  | case2 more ih => simpa [segments] using ih
  | case3 c more hpair hc ih =>
      cases more with
      | nil =>
          by_cases hreturn : c = '\r'
          · subst hreturn
            rfl
          · rw [List.cons_append, List.cons_append, segments_cons_of_isLineEnd hc (absurd · hreturn),
              segments_cons_of_isLineEnd hc (absurd · hreturn), List.cons_append]
            exact congrArg _ ih
      | cons d more =>
          have hd : c = '\r' → d ≠ '\n' := fun hreturn heq => hpair more hreturn (by rw [heq])
          have hnext : ∀ after, c = '\r' → (d :: more ++ after).head? ≠ some '\n' := by simpa using hd
          change segments (c :: (d :: more ++ '\n' :: rest)) =
            segments (c :: (d :: more ++ ['\n'])) ++ rest.segments
          rw [segments_cons_of_isLineEnd hc (hnext _), segments_cons_of_isLineEnd hc (hnext _), ih]
          rfl
  | case4 c more _ hc _ ih => exact segments_cons_append hc (by simp) ih
  | case5 c more _ hc segment segments _ ih => exact segments_cons_append hc (by simp) ih

/-- How the lines go on after a line feed does not depend on what comes before it. -/
theorem lines_append_lineFeed (first rest : Text) :
    (first ++ '\n' :: rest).lines = (first ++ ['\n']).lines ++ rest.lines := by
  rw [lines, lines, lines, segments_append_lineFeed, List.map_append]

theorem lines_cons_of_isLineEnd {c : Char} (hc : isLineEnd c = true) {rest : Text}
    (hrest : c = '\r' → rest.head? ≠ some '\n') : lines (c :: rest) = [] :: rest.lines := by
  rw [lines, segments_cons_of_isLineEnd hc hrest]
  rfl

theorem lines_cons_of_not_isLineEnd {c : Char} (hc : ¬ isLineEnd c = true) (rest : Text) :
    lines (c :: rest) =
      match rest.lines with
      | [] => [[c]]
      | line :: more => (c :: line) :: more := by
  rw [lines, segments_cons_of_not_isLineEnd hc, lines]
  cases rest.segments <;> rfl

/-- A line feed closes the last line, or it is an empty line by itself. -/
theorem lines_prefix_append_lineFeed (text : Text) : text.lines <+: (text ++ ['\n']).lines := by
  fun_induction segments text with
  | case1 => exact List.nil_prefix
  | case2 more ih => exact List.cons_prefix_cons.mpr ⟨rfl, ih⟩
  | case3 c more hpair hc ih =>
      have hmore : c = '\r' → more.head? ≠ some '\n' := by
        rintro rfl hhead
        obtain ⟨after, rfl⟩ := List.head?_eq_some_iff.mp hhead
        exact hpair after rfl rfl
      rw [lines_cons_of_isLineEnd hc hmore]
      cases more with
      | nil =>
          by_cases hreturn : c = '\r'
          · subst hreturn
            exact List.prefix_refl _
          · rw [List.cons_append, lines_cons_of_isLineEnd hc (absurd · hreturn)]
            exact List.cons_prefix_cons.mpr ⟨rfl, ih⟩
      | cons d more =>
          rw [List.cons_append, lines_cons_of_isLineEnd hc (by simpa using hmore)]
          exact List.cons_prefix_cons.mpr ⟨rfl, ih⟩
  | case4 c more _ hc hnil ih =>
      obtain rfl : more = [] := not_imp_comm.mp segments_ne_nil (not_not_intro hnil)
      rw [List.cons_append, lines_cons_of_not_isLineEnd hc, lines_cons_of_not_isLineEnd hc]
      exact List.prefix_refl _
  | case5 c more _ hc segment others hsegments ih =>
      have hlines : lines more = segment.line :: others.map Segment.line := by
        rw [lines, hsegments, List.map_cons]
      rw [hlines] at ih
      obtain ⟨added, hadded⟩ := ih
      rw [List.cons_append, lines_cons_of_not_isLineEnd hc, lines_cons_of_not_isLineEnd hc, hlines,
        ← hadded]
      exact ⟨added, rfl⟩

/-- Line breaks of any kind separate the same lines as the line feeds in their places. -/
theorem lines_unifyNewlines (text : Text) : text.unifyNewlines.lines = text.lines := by
  fun_induction unifyNewlines text with
  | case1 => rfl
  | case2 more ih => exact congrArg (List.cons []) ih
  | case3 more hmore ih =>
      rw [lines_cons_of_isLineEnd (by decide) (by simp), ih, lines_cons_of_isLineEnd (by decide)]
      rintro - hhead
      obtain ⟨after, rfl⟩ := List.head?_eq_some_iff.mp hhead
      exact hmore after rfl
  | case4 c more _ hc ih =>
      by_cases hend : isLineEnd c = true
      · rw [lines_cons_of_isLineEnd hend (absurd · hc), lines_cons_of_isLineEnd hend (absurd · hc), ih]
      · rw [lines_cons_of_not_isLineEnd hend, lines_cons_of_not_isLineEnd hend, ih]

theorem infix_lines {part whole : Text} (hpart : StandsBetween '\n' part whole) :
    part.lines <:+: whole.lines :=
  hpart.map_infix lines_append_lineFeed lines_prefix_append_lineFeed

end Text

end AsmLens
