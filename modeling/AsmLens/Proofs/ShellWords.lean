import AsmLens.ShellWords
import AsmLens.Text.Blank
import Mathlib.Data.List.Forall2

/-!
# Cutting a command line that was put together from parts

A part that can be cut into words by itself ends outside all quotes, so a space after it ends its last
word, and what follows is cut as if it stood alone. A quoted text is one word, whatever it holds.
-/

namespace AsmLens.ShellWords

namespace Scan

/-- The scan with words before those that it has finished. -/
def after (scan : Scan) (words : List Text) : Scan :=
  { scan with words := words ++ scan.words }

theorem close_after (scan : Scan) (words : List Text) :
    (scan.after words).close = scan.close.after words := by
  simp [after, close]

/-- What a character does depends on the mode only: it ends a word, adds to one, or has an effect on what
comes next. -/
theorem step_cases (mode : Mode) (c : Char) :
    (mode = .bare ∧ isSeparator c = true ∧
        ∀ words word, step ⟨mode, words, word⟩ c = close ⟨mode, words, word⟩) ∨
      (∃ next text, ∀ words word, step ⟨mode, words, word⟩ c = push ⟨mode, words, word⟩ next text) ∨
      ∃ next, mode ≠ .bareEscape ∧ (mode = .bare → next = .bareEscape) ∧
        ∀ words word, step ⟨mode, words, word⟩ c = ⟨next, words, word⟩ := by
  cases mode with
  | bare =>
      by_cases hseparator : isSeparator c = true
      · exact .inl ⟨rfl, hseparator, fun words word => by simp [step, hseparator]⟩
      · by_cases hescape : c = '\\'
        · subst hescape
          exact .inr (.inr ⟨.bareEscape, by simp, fun _ => rfl, fun words word => rfl⟩)
        · refine .inr (.inl ?_)
          by_cases hsingle : c = '\''
          · subst hsingle
            exact ⟨.single, [], fun words word => rfl⟩
          · by_cases hdouble : c = '"'
            · subst hdouble
              exact ⟨.double, [], fun words word => rfl⟩
            · exact ⟨.bare, [c], fun words word => by
                simp [step, hseparator, hsingle, hdouble, hescape]⟩
  | single =>
      by_cases hclose : c = '\''
      · exact .inr (.inr ⟨.bare, by simp, by simp, fun words word => by simp [step, hclose]⟩)
      · exact .inr (.inl ⟨.single, [c], fun words word => by simp [step, hclose]⟩)
  | double =>
      by_cases hclose : c = '"'
      · exact .inr (.inr ⟨.bare, by simp, by simp, fun words word => by simp [step, hclose]⟩)
      · by_cases hescape : c = '\\'
        · exact .inr (.inr ⟨.doubleEscape, by simp, by simp, fun words word => by simp [step, hescape]⟩)
        · exact .inr (.inl ⟨.double, [c], fun words word => by simp [step, hclose, hescape]⟩)
  | bareEscape => exact .inr (.inl ⟨.bare, [c], fun words word => rfl⟩)
  | doubleEscape => exact .inr (.inl ⟨.double, _, fun words word => rfl⟩)

/-- Finished words have no influence on what is read. -/
theorem step_after (scan : Scan) (words : List Text) (c : Char) :
    (scan.after words).step c = (scan.step c).after words := by
  obtain ⟨mode, finished, word⟩ := scan
  simp only [after]
  rcases step_cases mode c with ⟨rfl, _, hstep⟩ | ⟨next, text, hstep⟩ | ⟨next, _, _, hstep⟩
  · rw [hstep, hstep]
    exact close_after ⟨.bare, finished, word⟩ words
  · rw [hstep, hstep]
    rfl
  · rw [hstep, hstep]

theorem foldl_step_after (scan : Scan) (words : List Text) (line : Text) :
    line.foldl step (scan.after words) = (line.foldl step scan).after words := by
  induction line generalizing scan with
  | nil => rfl
  | cons c rest ih => rw [List.foldl_cons, List.foldl_cons, step_after, ih]

theorem finish_after (scan : Scan) (words : List Text) :
    (scan.after words).finish = scan.finish.map (words ++ ·) := by
  obtain ⟨mode, finished, word⟩ := scan
  cases mode with
  | bare => simp [finish, after, close, Except.map]
  | single => rfl
  | double => rfl
  | bareEscape => rfl
  | doubleEscape => rfl

/-- A line can be cut exactly when it ends outside quotes and escapes. -/
theorem finish_eq_ok_iff {scan : Scan} {words : List Text} :
    scan.finish = .ok words ↔ scan.mode = .bare ∧ scan.close.words = words := by
  obtain ⟨mode, finished, word⟩ := scan
  cases mode <;> simp [finish]

end Scan

@[simp]
theorem split_nil : split [] = .ok [] :=
  rfl

/-- The words of a part and those of the rest, when a space stands between them. -/
theorem split_append_space {part : Text} {words : List Text} (hpart : split part = .ok words)
    (rest : Text) : split (part ++ ' ' :: rest) = (split rest).map (words ++ ·) := by
  obtain ⟨hmode, hwords⟩ := Scan.finish_eq_ok_iff.mp hpart
  have hspace : (part.foldl Scan.step Scan.start).step ' ' = Scan.start.after words := by
    rw [Scan.step, hmode, if_pos (by decide), Scan.after, ← hwords]
    simp [Scan.close, Scan.start]
  rw [split, List.foldl_append, List.foldl_cons, hspace, Scan.foldl_step_after, Scan.finish_after]
  rfl

/-- Parts that can be cut one by one give their words in order when spaces stand between them. -/
theorem split_join {parts : List Text} {words : List (List Text)}
    (hparts : List.Forall₂ (fun part own => split part = .ok own) parts words) :
    split (Text.join " " parts) = .ok words.flatten := by
  induction hparts with
  | nil => rfl
  | @cons part own parts words hpart hrest ih =>
      cases hrest with
      | nil =>
          rw [Text.join_singleton, hpart]
          simp
      | @cons second next parts words hsecond hrest =>
          have hjoin : Text.join " " (part :: second :: parts) =
              part ++ ' ' :: Text.join " " (second :: parts) := by
            rw [Text.join_cons_cons]
            simp
          rw [hjoin, split_append_space hpart, ih]
          simp [Except.map]

/-! ### What the words are made of -/

namespace Scan

/-- A character that is in no word of a scan. -/
structure Lacks (scan : Scan) (c : Char) : Prop where
  words : ∀ word ∈ scan.words, c ∉ word
  word : ∀ word ∈ scan.word, c ∉ word

variable {scan : Scan} {c d : Char}

theorem Lacks.close (hlacks : scan.Lacks c) : scan.close.Lacks c := by
  refine ⟨fun word hword => ?_, by simp [Scan.close]⟩
  rcases List.mem_append.mp hword with hfinished | hlast
  · exact hlacks.words word hfinished
  · exact hlacks.word word (Option.mem_toList.mp hlast)

theorem Lacks.push (hlacks : scan.Lacks c) (mode : Mode) {text : Text} (htext : c ∉ text) :
    (scan.push mode text).Lacks c := by
  refine ⟨hlacks.words, fun word hword => ?_⟩
  obtain rfl := Option.some.inj hword
  refine List.not_mem_append ?_ htext
  cases hbegun : scan.word with
  | none => exact List.not_mem_nil
  | some begun => exact hlacks.word begun hbegun

/-- A step puts into a word what it reads, and at most a backslash that was read before. -/
theorem Lacks.step (hlacks : scan.Lacks c) (hbackslash : c ≠ '\\') (hread : c ≠ d) :
    (scan.step d).Lacks c := by
  have hsame (mode : Mode) : ({ scan with mode } : Scan).Lacks c := ⟨hlacks.words, hlacks.word⟩
  have hone : c ∉ [d] := by simpa using hread
  rw [Scan.step]
  cases scan.mode with
  | bare =>
      simp only
      split_ifs
      · exact hlacks.close
      · exact hlacks.push _ List.not_mem_nil
      · exact hlacks.push _ List.not_mem_nil
      · exact hsame _
      · exact hlacks.push _ hone
  | single =>
      simp only
      split_ifs
      · exact hsame _
      · exact hlacks.push _ hone
  | double =>
      simp only
      split_ifs
      · exact hsame _
      · exact hsame _
      · exact hlacks.push _ hone
  | bareEscape => exact hlacks.push _ hone
  | doubleEscape =>
      refine hlacks.push _ ?_
      split_ifs
      · exact hone
      · simp [hbackslash, hread]

theorem Lacks.foldl (hlacks : scan.Lacks c) (hbackslash : c ≠ '\\') {line : Text} (hline : c ∉ line) :
    (line.foldl Scan.step scan).Lacks c := by
  induction line generalizing scan with
  | nil => exact hlacks
  | cons d rest ih =>
      rw [List.mem_cons, not_or] at hline
      exact ih (hlacks.step hbackslash hline.1) hline.2

theorem isBlank_of_isSeparator {c : Char} (hc : isSeparator c = true) : Text.isBlank c = true := by
  simp only [isSeparator, Bool.or_eq_true, decide_eq_true_eq] at hc
  rcases hc with ((rfl | rfl) | rfl) | rfl <;> decide

/-- A scan that has met something else than separators. -/
def Begun (scan : Scan) : Prop :=
  scan.mode = .bareEscape ∨ scan.words ≠ [] ∨ scan.word ≠ none

theorem Begun.close_words_ne_nil (hbegun : scan.Begun) (hmode : scan.mode = .bare) :
    scan.close.words ≠ [] := by
  rcases hbegun with hescape | hwords | hword
  · rw [hmode] at hescape
    cases hescape
  · exact List.append_ne_nil_of_left_ne_nil hwords _
  · obtain ⟨word, hword⟩ := Option.ne_none_iff_exists'.mp hword
    simp [Scan.close, hword]

theorem Begun.step (hbegun : scan.Begun) (d : Char) : (scan.step d).Begun := by
  obtain ⟨mode, words, word⟩ := scan
  rcases step_cases mode d with ⟨hmode, _, hstep⟩ | ⟨next, text, hstep⟩ | ⟨next, hmode, _, hstep⟩
  · rw [hstep]
    exact .inr (.inl (hbegun.close_words_ne_nil hmode))
  · rw [hstep]
    exact .inr (.inr (Option.some_ne_none _))
  · rw [hstep]
    exact .inr (hbegun.resolve_left hmode)

theorem begun_step (hmode : scan.mode = .bare) (hd : isSeparator d = false) :
    (scan.step d).Begun := by
  obtain ⟨mode, words, word⟩ := scan
  rcases step_cases mode d with ⟨_, hseparator, _⟩ | ⟨next, text, hstep⟩ | ⟨next, _, hnext, hstep⟩
  · rw [hd] at hseparator
    cases hseparator
  · rw [hstep]
    exact .inr (.inr (Option.some_ne_none _))
  · rw [hstep]
    exact .inl (hnext hmode)

theorem Begun.foldl (hbegun : scan.Begun) (line : Text) : (line.foldl Scan.step scan).Begun := by
  induction line generalizing scan with
  | nil => exact hbegun
  | cons d rest ih => exact ih (hbegun.step d)

theorem begun_foldl (hmode : scan.mode = .bare) {line : Text}
    (hline : ∃ d ∈ line, isSeparator d = false) : (line.foldl Scan.step scan).Begun := by
  induction line generalizing scan with
  | nil => simp at hline
  | cons d rest ih =>
      cases hd : isSeparator d with
      | false => exact (begun_step hmode hd).foldl rest
      | true =>
          obtain ⟨other, hother, hproper⟩ := hline
          refine ih ?_ ⟨other, (List.mem_cons.mp hother).resolve_left ?_, hproper⟩
          · rw [Scan.step, hmode, if_pos hd]
            rfl
          · rintro rfl
            rw [hd] at hproper
            cases hproper

end Scan

variable {line : Text} {words : List Text}

/-- A character that is not in a line is in none of its words. -/
theorem not_mem_of_split (hsplit : split line = .ok words) {c : Char} (hbackslash : c ≠ '\\')
    (hline : c ∉ line) : ∀ word ∈ words, c ∉ word := by
  obtain ⟨_, rfl⟩ := Scan.finish_eq_ok_iff.mp hsplit
  have hstart : Scan.start.Lacks c := ⟨by simp [Scan.start], by simp [Scan.start]⟩
  exact (hstart.foldl hbackslash hline).close.words

/-- A line that is not blank has words. -/
theorem ne_nil_of_split (hsplit : split line = .ok words) (hline : line.strip ≠ []) : words ≠ [] := by
  obtain ⟨hmode, rfl⟩ := Scan.finish_eq_ok_iff.mp hsplit
  have hshown : ∃ c ∈ line, Scan.isSeparator c = false := by
    rw [Ne, Text.strip_eq_nil_iff, not_forall] at hline
    obtain ⟨c, hc⟩ := hline
    obtain ⟨hmem, hblank⟩ := Classical.not_imp.mp hc
    exact ⟨c, hmem, Bool.eq_false_iff.mpr fun hseparator =>
      hblank (Scan.isBlank_of_isSeparator hseparator)⟩
  exact (Scan.begun_foldl rfl hshown).close_words_ne_nil hmode

/-! ### Quoted texts -/

/-- What stands for a character between single quotes: a single quote leaves them, stands between double
quotes, and enters them again. -/
theorem foldl_step_quoted (words : List Text) (word text : Text) :
    (text.flatMap fun c => if c = '\'' then "'\"'\"'".toList else [c]).foldl Scan.step
      ⟨.single, words, some word⟩ = ⟨.single, words, some (word ++ text)⟩ := by
  induction text generalizing word with
  | nil => simp
  | cons c rest ih =>
      have hstep : (if c = '\'' then "'\"'\"'".toList else [c]).foldl Scan.step
          ⟨.single, words, some word⟩ = ⟨.single, words, some (word ++ [c])⟩ := by
        by_cases hc : c = '\''
        · rw [if_pos hc, hc]
          simp [Scan.step, Scan.push, Scan.isSeparator]
        · rw [if_neg hc]
          simp [Scan.step, Scan.push, hc]
      rw [List.flatMap_cons, List.foldl_append, hstep, ih]
      simp

/-- A plain character neither ends a word nor opens a quote or an escape. -/
theorem step_of_isPlain {c : Char} (hc : isPlain c = true) (words : List Text) (word : Option Text) :
    Scan.step ⟨.bare, words, word⟩ c = ⟨.bare, words, some (word.getD [] ++ [c])⟩ := by
  have hne : ∀ {d : Char}, isPlain d = false → c ≠ d := by
    rintro d hd rfl
    rw [hc] at hd
    contradiction
  have hseparator : Scan.isSeparator c = false := by
    simp [Scan.isSeparator, hne (d := ' ') (by decide), hne (d := '\t') (by decide),
      hne (d := '\r') (by decide), hne (d := '\n') (by decide)]
  simp [Scan.step, hseparator, hne (d := '\'') (by decide), hne (d := '"') (by decide),
    hne (d := '\\') (by decide), Scan.push]

theorem foldl_step_plain {text : Text} (hplain : text.all isPlain = true) (words : List Text)
    (word : Text) :
    text.foldl Scan.step ⟨.bare, words, some word⟩ = ⟨.bare, words, some (word ++ text)⟩ := by
  induction text generalizing word with
  | nil => simp
  | cons c rest ih =>
      rw [List.all_cons, Bool.and_eq_true] at hplain
      rw [List.foldl_cons, step_of_isPlain hplain.1, ih hplain.2]
      simp

/-- Every text is the one word of its quoted form. -/
theorem split_quote (text : Text) : split (quote text) = .ok [text] := by
  unfold quote
  split
  · next hempty =>
      rw [List.isEmpty_iff.mp hempty]
      rfl
  · next hne =>
      split
      · next hplain =>
          cases text with
          | nil => exact absurd rfl hne
          | cons c rest =>
              rw [List.all_cons, Bool.and_eq_true] at hplain
              have hfirst : Scan.start.step c = ⟨.bare, [], some [c]⟩ :=
                step_of_isPlain hplain.1 [] none
              rw [split, List.foldl_cons, hfirst, foldl_step_plain hplain.2]
              rfl
      · have hopen : Scan.start.step '\'' = ⟨.single, [], some []⟩ := by decide
        rw [split, List.foldl_cons, List.foldl_append, hopen, foldl_step_quoted]
        simp [Scan.step, Scan.finish, Scan.close]

/-- Quoting adds quotation marks, and no other characters. -/
theorem not_mem_quote {text : Text} {c : Char} (hsingle : c ≠ '\'') (hdouble : c ≠ '"')
    (htext : c ∉ text) : c ∉ quote text := by
  have hmarks : ∀ d ∈ text, c ∉ (if d = '\'' then "'\"'\"'".toList else [d]) := by
    intro d hd
    have hne : c ≠ d := fun heq => htext (heq ▸ hd)
    split_ifs
    · simp [hsingle, hdouble]
    · simpa using hne
  unfold quote
  split
  · simp [hsingle]
  · split
    · exact htext
    · simpa [hsingle] using hmarks

/-- A quoted text is never blank, so it is never left out of a command line. -/
theorem strip_quote_ne_nil (text : Text) : (quote text).strip ≠ [] := by
  suffices hshown : ∃ c ∈ quote text, Text.isBlank c = false by
    obtain ⟨c, hmem, hc⟩ := hshown
    exact List.ne_nil_of_mem (Text.mem_strip hmem hc)
  unfold quote
  split
  · exact ⟨'\'', by decide, by decide⟩
  · next hne =>
      split
      · next hplain =>
          cases text with
          | nil => exact absurd rfl hne
          | cons c rest =>
              rw [List.all_cons, Bool.and_eq_true] at hplain
              refine ⟨c, List.mem_cons_self, ?_⟩
              by_cases hblank : Text.isBlank c = true
              · have hall : Text.blanks.all (fun d => !isPlain d) = true := by decide
                have hnot := List.all_eq_true.mp hall c (List.contains_iff_mem.mp hblank)
                rw [hplain.1] at hnot
                contradiction
              · exact Bool.eq_false_iff.mpr hblank
      · exact ⟨'\'', List.mem_cons_self, by decide⟩

end AsmLens.ShellWords
