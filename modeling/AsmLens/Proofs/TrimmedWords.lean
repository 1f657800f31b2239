import AsmLens.Proofs.CommandWords

/-!
# The words of a trimmed value

A value is trimmed before it is cut into words, and what is trimmed off need not be a separator of words:
it can be a blank of another kind, or one that stands behind an escape. Such an escape then takes the space
before the next part of a command line.
-/

namespace AsmLens

theorem Text.exists_blanks_around (text : Text) :
    ∃ before after, text = before ++ (text.strip ++ after) ∧
      (∀ c ∈ before, isBlank c = true) ∧ ∀ c ∈ after, isBlank c = true := by
  refine ⟨text.takeWhile isBlank, text.stripLeft.rtakeWhile isBlank, ?_, ?_, ?_⟩
  · calc
      text = text.takeWhile isBlank ++ text.stripLeft := List.takeWhile_append_dropWhile.symm
      _ = text.takeWhile isBlank ++ (text.strip ++ text.stripLeft.rtakeWhile isBlank) :=
        congrArg _ List.rdropWhile_append_rtakeWhile.symm
  · exact List.all_eq_true.mp List.all_takeWhile
  · intro c hc
    exact List.mem_rtakeWhile_imp hc

namespace ShellWords

/-- The characters of words, and one more for the end of each word. -/
def load (words : List Text) : Nat :=
  words.flatten.length + words.length

theorem load_append (first second : List Text) : load (first ++ second) = load first + load second := by
  simp only [load, List.flatten_append, List.length_append]
  omega

namespace Scan

variable {scan other : Scan} {line : Text} {c : Char}

def ofLine (line : Text) : Scan :=
  line.foldl step start

/-- What a scan has read into words, those that it has finished counted with their ends. -/
def load (scan : Scan) : Nat :=
  ShellWords.load scan.words + (scan.word.getD []).length

@[simp]
theorem load_push (scan : Scan) (mode : Mode) (text : Text) :
    (scan.push mode text).load = scan.load + text.length := by
  simp [push, load]
  omega

theorem load_close (scan : Scan) : scan.close.load = scan.load + scan.word.toList.length := by
  obtain ⟨mode, words, word⟩ := scan
  cases word with
  | none => simp [close, load]
  | some word =>
      simp only [close, load, Option.toList_some, load_append, Option.getD_some, Option.getD_none]
      simp [ShellWords.load]
      omega

theorem close_close (scan : Scan) : scan.close.close = scan.close := by
  simp [close]

/-! ### Two scans of one text -/

/-- Two scans do the same from here on, but for the words that they have read. Behind an escape the next
character begins a word, if none has begun. -/
structure Alike (scan other : Scan) : Prop where
  mode : scan.mode = other.mode
  begun : scan.mode ≠ .bareEscape → scan.word.isSome = other.word.isSome

theorem length_toList_of_isSome {word otherWord : Option Text}
    (hsome : word.isSome = otherWord.isSome) :
    word.toList.length = otherWord.toList.length := by
  cases word <;> cases otherWord <;> simp_all

theorem Alike.load_close (halike : Alike scan other) (hmode : scan.mode = .bare) :
    scan.close.load + other.load = other.close.load + scan.load := by
  have hbegun := length_toList_of_isSome (halike.begun (by simp [hmode]))
  rw [Scan.load_close, Scan.load_close]
  omega

theorem Alike.step (halike : Alike scan other) (c : Char) :
    Alike (scan.step c) (other.step c) ∧
      (scan.step c).load + other.load = (other.step c).load + scan.load := by
  obtain ⟨mode, words, word⟩ := scan
  obtain ⟨otherMode, otherWords, otherWord⟩ := other
  obtain rfl : mode = otherMode := halike.mode
  rcases step_cases mode c with ⟨hbare, _, hstep⟩ | ⟨next, text, hstep⟩ | ⟨next, hescape, _, hstep⟩
  · rw [hstep, hstep]
    exact ⟨⟨rfl, fun _ => rfl⟩, halike.load_close hbare⟩
  · rw [hstep, hstep, load_push, load_push]
    exact ⟨⟨rfl, fun _ => rfl⟩, by omega⟩
  · rw [hstep, hstep]
    exact ⟨⟨rfl, fun _ => halike.begun hescape⟩, Nat.add_comm ..⟩

theorem Alike.foldl (halike : Alike scan other) (line : Text) :
    Alike (line.foldl Scan.step scan) (line.foldl Scan.step other) ∧
      (line.foldl Scan.step scan).load + other.load = (line.foldl Scan.step other).load + scan.load := by
  induction line generalizing scan other with
  | nil => exact ⟨halike, Nat.add_comm ..⟩
  | cons c line ih =>
      obtain ⟨hnext, hstep⟩ := halike.step c
      obtain ⟨hlast, hfold⟩ := ih hnext
      refine ⟨hlast, ?_⟩
      simp only [List.foldl_cons]
      omega

/-- Outside quotes, a text that begins with no separator is read behind any words, finished or begun, as it
is read from the start. -/
theorem alike_foldl_of_bare (hscan : scan.mode = .bare) (hc : isSeparator c = false) (line : Text) :
    Alike ((c :: line).foldl step scan) (ofLine (c :: line)) ∧
      ((c :: line).foldl step scan).load = scan.load + (ofLine (c :: line)).load := by
  obtain ⟨mode, words, word⟩ := scan
  obtain rfl : mode = .bare := hscan
  have hfirst : Alike (step ⟨.bare, words, word⟩ c) (start.step c) ∧
      (step ⟨.bare, words, word⟩ c).load = load ⟨.bare, words, word⟩ + (start.step c).load := by
    rw [start]
    rcases step_cases .bare c with ⟨_, hseparator, _⟩ | ⟨next, text, hstep⟩ | ⟨next, _, hnext, hstep⟩
    · rw [hc] at hseparator
      cases hseparator
    · rw [hstep, hstep, load_push, load_push]
      exact ⟨⟨rfl, fun _ => rfl⟩, by simp [load, ShellWords.load]⟩
    · rw [hstep, hstep]
      exact ⟨⟨rfl, fun hescape => absurd (hnext rfl) hescape⟩, by simp [load, ShellWords.load]⟩
  obtain ⟨hlast, hfold⟩ := hfirst.1.foldl line
  refine ⟨hlast, ?_⟩
  rw [List.foldl_cons, ofLine, List.foldl_cons]
  omega

/-! ### Blanks -/

theorem not_quote_of_isBlank (hc : Text.isBlank c = true) : c ≠ '\'' ∧ c ≠ '"' ∧ c ≠ '\\' := by
  have hall : Text.blanks.all (fun d => d ≠ '\'' && (d ≠ '"' && d ≠ '\\')) = true := by decide
  simpa using List.all_eq_true.mp hall c (List.contains_iff_mem.mp hc)

theorem step_of_isBlank (hmode : scan.mode = .bare) (hc : Text.isBlank c = true) :
    scan.step c = if isSeparator c then scan.close else scan.push .bare [c] := by
  obtain ⟨hsingle, hdouble, hescape⟩ := not_quote_of_isBlank hc
  simp [step, hmode, hsingle, hdouble, hescape]

/-- Outside quotes, blanks that are no separators add to words as other characters do. -/
theorem load_foldl_blanks (hmode : scan.mode = .bare) (hblank : ∀ c ∈ line, Text.isBlank c = true) :
    (line.foldl step scan).mode = .bare ∧
      scan.load + line.countP (fun c => !isSeparator c) ≤ (line.foldl step scan).load ∧
      scan.close.load + line.countP (fun c => !isSeparator c) ≤ (line.foldl step scan).close.load := by
  induction line generalizing scan with
  | nil => exact ⟨hmode, Nat.le_refl _, Nat.le_refl _⟩
  | cons c line ih =>
      obtain ⟨hc, hline⟩ := List.forall_mem_cons.mp hblank
      rw [List.foldl_cons, step_of_isBlank hmode hc]
      split
      · next hseparator =>
          obtain ⟨hlast, hload, hclose⟩ := @ih scan.close rfl hline
          have hle := scan.load_close
          rw [close_close] at hclose
          rw [List.countP_cons_of_neg (by simp [hseparator])]
          exact ⟨hlast, by omega, hclose⟩
      · next hother =>
          obtain ⟨hlast, hload, hclose⟩ := @ih (scan.push .bare [c]) rfl hline
          -- A word has begun now, if none had before, so its end counts in either case.
          have hword : (scan.push .bare [c]).word.toList.length = 1 := rfl
          have hbegun : scan.word.toList.length ≤ 1 := by cases scan.word <;> simp
          rw [load_close (scan.push .bare [c]), hword] at hclose
          rw [load_push, List.length_singleton] at hload hclose
          rw [List.countP_cons_of_pos (by simpa using hother), load_close scan]
          exact ⟨hlast, by omega, by omega⟩

theorem mode_foldl_blanks_ne_bare
    (hmode : scan.mode = .single ∨ scan.mode = .double ∨ scan.mode = .doubleEscape)
    (hblank : ∀ c ∈ line, Text.isBlank c = true) : (line.foldl step scan).mode ≠ .bare := by
  induction line generalizing scan with
  | nil => rcases hmode with hmode | hmode | hmode <;> simp [hmode]
  | cons c line ih =>
      obtain ⟨hc, hline⟩ := List.forall_mem_cons.mp hblank
      obtain ⟨hsingle, hdouble, hescape⟩ := not_quote_of_isBlank hc
      rw [List.foldl_cons]
      refine ih ?_ hline
      rcases hmode with hmode | hmode | hmode
      · exact .inl (by simp [step, hmode, hsingle, push])
      · exact .inr (.inl (by simp [step, hmode, hdouble, hescape, push]))
      · exact .inr (.inl (by simp [step, hmode, push]))

/-- A text that can be cut once blanks have been added to it has none of its quotes open; where it ends in
an escape, the first of the blanks belongs to its last word. -/
theorem load_before_blanks (hblank : ∀ c ∈ line, Text.isBlank c = true)
    (hfinal : (line.foldl step scan).mode = .bare) :
    (scan.mode = .bare ∧ (scan.step ' ').load + line.countP (fun c => !isSeparator c) ≤
        (line.foldl step scan).close.load) ∨
      (scan.mode = .bareEscape ∧ (scan.step ' ').load < (line.foldl step scan).close.load) := by
  cases hmode : scan.mode with
  | bare =>
      have hspace : scan.step ' ' = scan.close := by
        rw [step_of_isBlank hmode (by decide), if_pos (by decide)]
      rw [hspace]
      exact .inl ⟨rfl, (load_foldl_blanks hmode hblank).2.2⟩
  | bareEscape =>
      cases line with
      | nil =>
          rw [List.foldl_nil, hmode] at hfinal
          cases hfinal
      | cons d line =>
          obtain ⟨_, hline⟩ := List.forall_mem_cons.mp hblank
          have hescaped : ∀ c, scan.step c = scan.push .bare [c] := by
            intro c
            simp [step, hmode]
          have hlast := (@load_foldl_blanks (scan.push .bare [d]) line rfl hline).2.2
          have hword : (scan.push .bare [d]).word.toList.length = 1 := rfl
          rw [load_close, load_push, hword, List.length_singleton] at hlast
          rw [List.foldl_cons, hescaped, hescaped, load_push, List.length_singleton]
          exact .inr ⟨rfl, by omega⟩
  | single => exact absurd hfinal (mode_foldl_blanks_ne_bare (.inl hmode) hblank)
  | double => exact absurd hfinal (mode_foldl_blanks_ne_bare (.inr (.inl hmode)) hblank)
  | doubleEscape => exact absurd hfinal (mode_foldl_blanks_ne_bare (.inr (.inr hmode)) hblank)

end Scan

open Scan (isSeparator ofLine)

variable {value first rest : Text} {words own : List Text}

theorem split_eq_ok_iff {line : Text} :
    split line = .ok words ↔ (ofLine line).mode = .bare ∧ (ofLine line).close.words = words :=
  Scan.finish_eq_ok_iff

/-- A text that has no quotes open at its end. -/
def EndsOpen (text : Text) : Prop :=
  (ofLine text).mode = .bare ∨ (ofLine text).mode = .bareEscape

theorem load_of_split {line : Text} (hsplit : split line = .ok words) :
    load words = (ofLine line).close.load := by
  rw [← (split_eq_ok_iff.mp hsplit).2]
  rfl

/-! ### A trimmed value -/

/-- What is trimmed off a value are separators of words, and the rest can be cut as it stands. -/
structure TrimsCleanly (value : Text) : Prop where
  separators : ∃ before after, value = before ++ (value.strip ++ after) ∧
    ∀ c ∈ before ++ after, isSeparator c = true
  words : ∃ words, split value.strip = .ok words

theorem foldl_separators {scan : Scan} {line : Text} (hmode : scan.mode = .bare)
    (hline : ∀ c ∈ line, isSeparator c = true) :
    line.foldl Scan.step scan = scan ∨ line.foldl Scan.step scan = scan.close := by
  induction line generalizing scan with
  | nil => exact .inl rfl
  | cons c line ih =>
      obtain ⟨hc, hline⟩ := List.forall_mem_cons.mp hline
      have hstep : scan.step c = scan.close := by simp [Scan.step, hmode, hc]
      rw [List.foldl_cons, hstep]
      rcases @ih scan.close rfl hline with hlast | hlast
      · exact .inr hlast
      · exact .inr (hlast.trans scan.close_close)

theorem TrimsCleanly.split_strip (hclean : TrimsCleanly value) : split value.strip = split value := by
  obtain ⟨⟨before, after, hvalue, hseparators⟩, words, hwords⟩ := hclean
  obtain ⟨hbefore, hafter⟩ := List.forall_mem_append.mp hseparators
  obtain ⟨hmode, hclose⟩ := split_eq_ok_iff.mp hwords
  have hstart : before.foldl Scan.step Scan.start = Scan.start := by
    rcases @foldl_separators Scan.start before rfl hbefore with hsame | hsame <;> exact hsame
  have hread : ofLine value = after.foldl Scan.step (ofLine value.strip) := by
    rw [ofLine, hvalue, List.foldl_append, hstart, List.foldl_append, ← hvalue]
    rfl
  rw [hwords]
  refine (split_eq_ok_iff.mpr ?_).symm
  rcases foldl_separators hmode hafter with hsame | hsame
  · rw [hread, hsame]
    exact ⟨hmode, hclose⟩
  · rw [hread, hsame, Scan.close_close]
    exact ⟨rfl, hclose⟩

theorem not_isSeparator_of_strip {c : Char} (hstrip : value.strip = c :: rest) :
    isSeparator c = false := by
  have hc : Text.isBlank c = false := Text.isBlank_head?_strip (by rw [hstrip]; rfl)
  rw [Bool.eq_false_iff] at hc ⊢
  exact fun hseparator => hc (Scan.isBlank_of_isSeparator hseparator)

/-- Trimming never adds to the words of a value. It takes nothing from them only where it is clean. -/
theorem load_strip_of_split (hsplit : split value = .ok words) (hne : value.strip ≠ []) :
    EndsOpen value.strip ∧
      ((ofLine value.strip).step ' ').load ≤ load words ∧
      (load words ≤ ((ofLine value.strip).step ' ').load → TrimsCleanly value) := by
  obtain ⟨before, after, hvalue, hbefore, hafter⟩ := value.exists_blanks_around
  obtain ⟨c, rest, hstrip⟩ := List.exists_cons_of_ne_nil hne
  obtain ⟨hmode, hload, _⟩ := @Scan.load_foldl_blanks Scan.start before rfl hbefore
  -- Behind the blanks, the trimmed value adds what it adds in a command line.
  obtain ⟨halike, hmiddle⟩ := Scan.alike_foldl_of_bare hmode (not_isSeparator_of_strip hstrip) rest
  rw [← hstrip] at halike hmiddle
  have hread : ofLine value = after.foldl Scan.step
      (value.strip.foldl Scan.step (before.foldl Scan.step Scan.start)) := by
    rw [← List.foldl_append, ← List.foldl_append, ← hvalue]
    rfl
  have hwords := load_of_split hsplit
  have hfinal := (split_eq_ok_iff.mp hsplit).1
  have hspace := (halike.step ' ').2
  have hstart : Scan.start.load = 0 := rfl
  rw [hread] at hwords hfinal
  rcases Scan.load_before_blanks hafter hfinal with ⟨hbare, hlast⟩ | ⟨hescape, hlast⟩
  · rw [halike.mode] at hbare
    refine ⟨.inl hbare, by omega, fun hle =>
      ⟨⟨before, after, hvalue, ?_⟩, (ofLine value.strip).close.words, ?_⟩⟩
    · have hnone : before.countP (fun c => !isSeparator c) = 0 ∧
          after.countP (fun c => !isSeparator c) = 0 := by omega
      rw [List.countP_eq_zero, List.countP_eq_zero] at hnone
      refine List.forall_mem_append.mpr ⟨fun c hc => ?_, fun c hc => ?_⟩
      · simpa using hnone.1 c hc
      · simpa using hnone.2 c hc
    · exact split_eq_ok_iff.mpr ⟨hbare, rfl⟩
  · rw [halike.mode] at hescape
    exact ⟨.inr hescape, by omega, fun hle => absurd hle (by omega)⟩

/-! ### A part of a command line before the next one -/

theorem EndsOpen.mode_step_space (hopen : EndsOpen first) : ((ofLine first).step ' ').mode = .bare := by
  rcases hopen with hmode | hmode
  · rw [Scan.step_of_isBlank hmode (by decide), if_pos (by decide)]
    rfl
  · simp [Scan.step, hmode, Scan.push]

variable {c : Char}

theorem EndsOpen.alike_append (hopen : EndsOpen first) (hc : isSeparator c = false) (rest : Text) :
    Scan.Alike (ofLine (first ++ ' ' :: c :: rest)) (ofLine (c :: rest)) ∧
      (ofLine (first ++ ' ' :: c :: rest)).load =
        ((ofLine first).step ' ').load + (ofLine (c :: rest)).load := by
  have hread : ofLine (first ++ ' ' :: c :: rest) =
      (c :: rest).foldl Scan.step ((ofLine first).step ' ') := by
    rw [ofLine, List.foldl_append, List.foldl_cons]
    rfl
  rw [hread]
  exact Scan.alike_foldl_of_bare hopen.mode_step_space hc rest

/-- Whether or not its last word has taken the space, a part adds the same to what comes next. -/
theorem EndsOpen.exists_split_append (hopen : EndsOpen first) (hc : isSeparator c = false)
    (hrest : split (c :: rest) = .ok own) :
    ∃ words, split (first ++ ' ' :: c :: rest) = .ok words ∧
      load words = ((ofLine first).step ' ').load + load own := by
  obtain ⟨halike, hload⟩ := hopen.alike_append hc rest
  have hmode := halike.mode.trans (split_eq_ok_iff.mp hrest).1
  have hclose := halike.load_close hmode
  have hsplit : split (first ++ ' ' :: c :: rest) =
      .ok (ofLine (first ++ ' ' :: c :: rest)).close.words :=
    split_eq_ok_iff.mpr ⟨hmode, rfl⟩
  refine ⟨_, hsplit, ?_⟩
  rw [load_of_split hsplit, load_of_split hrest]
  omega

/-- Behind an escape, the space and the next word belong to the word before. -/
theorem exists_split_append_of_escape (hescape : (ofLine first).mode = .bareEscape) :
    ∃ words last, split (first ++ " -g".toList) = .ok (words ++ [last ++ " -g".toList]) := by
  refine ⟨(ofLine first).words, (ofLine first).word.getD [], split_eq_ok_iff.mpr ?_⟩
  have hspace : (ofLine first).step ' ' =
      ⟨.bare, (ofLine first).words, some ((ofLine first).word.getD [] ++ [' '])⟩ := by
    simp [Scan.step, hescape, Scan.push]
  have hread : ofLine (first ++ " -g".toList) =
      "-g".toList.foldl Scan.step ((ofLine first).step ' ') := by
    rw [ofLine, List.foldl_append]
    rfl
  rw [hread, hspace, foldl_step_plain (by decide)]
  exact ⟨rfl, by simp [Scan.close]⟩

/-! ### The command line of a compiler -/

variable {environment : Environment} {toolchain : Toolchain} {language : Language}

theorem lineOf_eq (hcompiler : (toolchain.compiler language).strip ≠ [])
    (hflags : (toolchain.flags language).strip ≠ []) (input output : Text) :
    CompileCommand.lineOf toolchain language input output =
      toolchain.compiler language ++ ' ' :: (toolchain.flags language ++
        ' ' :: Text.join " " ["-g", "-c", "-o", quote output, quote input]) := by
  have hkept : ∀ part ∈ [toolchain.compiler language, toolchain.flags language, "-g", "-c", "-o",
      quote output, quote input], (!part.strip.isEmpty) = true := by
    intro part hpart
    suffices hne : part.strip ≠ [] by simpa using hne
    simp only [List.mem_cons, List.not_mem_nil, or_false] at hpart
    rcases hpart with rfl | rfl | rfl | rfl | rfl | rfl | rfl
    · exact hcompiler
    · exact hflags
    · decide
    · decide
    · decide
    · exact strip_quote_ne_nil output
    · exact strip_quote_ne_nil input
  rw [CompileCommand.lineOf, List.filter_eq_self.mpr hkept, Text.join_cons_cons, Text.join_cons_cons]
  simp

theorem split_fixed_words (input output : Text) :
    split (Text.join " " ["-c", "-o", quote output, quote input]) = .ok ["-c", "-o", output, input] ∧
      split (Text.join " " ["-g", "-c", "-o", quote output, quote input]) =
        .ok ["-g", "-c", "-o", output, input] := by
  have hparts : List.Forall₂ (fun part own => split part = .ok own)
      ["-c", "-o", quote output, quote input] [["-c"], ["-o"], [output], [input]] :=
    .cons rfl <| .cons rfl <| .cons (split_quote output) <| .cons (split_quote input) .nil
  rw [split_join hparts, split_join (.cons (show split "-g" = .ok ["-g"] from rfl) hparts)]
  exact ⟨rfl, rfl⟩

/-- The fixed words stand by themselves, unless the part before them ends in an escape: then the first of
them is swallowed. -/
theorem split_append_fixed_words (hopen : EndsOpen first) (input output : Text) :
    ((ofLine first).mode = .bare ∧
      ∃ words, split (first ++ ' ' :: Text.join " " ["-g", "-c", "-o", quote output, quote input]) =
        .ok (words ++ (["-g", "-c", "-o", output, input] : List Text))) ∨
    ((ofLine first).mode = .bareEscape ∧
      ∃ words last, split (first ++ ' ' :: Text.join " " ["-g", "-c", "-o", quote output, quote input]) =
        .ok (words ++ (last ++ " -g".toList) :: (["-c", "-o", output, input] : List Text))) := by
  obtain ⟨hshort, hlong⟩ := split_fixed_words input output
  rcases hopen with hmode | hmode
  · have hfirst : split first = .ok (ofLine first).close.words := split_eq_ok_iff.mpr ⟨hmode, rfl⟩
    refine .inl ⟨hmode, (ofLine first).close.words, ?_⟩
    rw [split_append_space hfirst, hlong]
    rfl
  · obtain ⟨words, last, hfirst⟩ := exists_split_append_of_escape hmode
    have hparts : first ++ ' ' :: Text.join " " ["-g", "-c", "-o", quote output, quote input] =
        (first ++ " -g".toList) ++
          ' ' :: Text.join " " ["-c", "-o", quote output, quote input] := by
      rw [Text.join_cons_cons]
      simp
    refine .inr ⟨hmode, words, last, ?_⟩
    rw [hparts, split_append_space hfirst, hshort]
    simp [Except.map]

variable {compiler flags : Text} {compilerWords flagWords : List Text}

/-- Each value puts no more into a command line than it holds, so it can lose nothing if the whole line
holds as much as both. -/
theorem trimsCleanly_of_split (hcompilerWords : split compiler = .ok compilerWords)
    (hflagWords : split flags = .ok flagWords) (hcompiler : compiler.strip ≠ [])
    (hflags : flags.strip ≠ []) {input output : Text}
    (hline : split (compiler.strip ++ ' ' :: (flags.strip ++
        ' ' :: Text.join " " ["-g", "-c", "-o", quote output, quote input])) =
      .ok (compilerWords ++ flagWords ++ (["-g", "-c", "-o", output, input] : List Text))) :
    TrimsCleanly compiler ∧ TrimsCleanly flags := by
  obtain ⟨hcompilerOpen, hcompilerLoad, hcompilerClean⟩ :=
    load_strip_of_split hcompilerWords hcompiler
  obtain ⟨hflagsOpen, hflagsLoad, hflagsClean⟩ := load_strip_of_split hflagWords hflags
  obtain ⟨c, rest, hstrip⟩ := List.exists_cons_of_ne_nil hflags
  have hdash : isSeparator '-' = false := by decide
  obtain ⟨tail, htail, htailLoad⟩ :=
    hflagsOpen.exists_split_append hdash (split_fixed_words input output).2
  rw [hstrip, List.cons_append] at htail
  obtain ⟨whole, hwhole, hwholeLoad⟩ :=
    hcompilerOpen.exists_split_append (not_isSeparator_of_strip hstrip) htail
  rw [← List.cons_append, ← hstrip] at hwhole
  obtain rfl := Except.ok.inj (hwhole.symm.trans hline)
  rw [load_append, load_append] at hwholeLoad
  exact ⟨hcompilerClean (by omega), hflagsClean (by omega)⟩

/-- The words that two variables hold as they stand reach the compiler exactly if both values are trimmed
cleanly. The fixed words follow as they are, unless the trimmed flags end in an escape, which takes in the
first of them. -/
theorem words_survive_trimming_iff (hread : Toolchain.ofEnvironment environment = .ok toolchain)
    (hcompiler : environment language.compilerSetting.variableName = some compiler)
    (hflags : environment language.flagsSetting.variableName = some flags)
    (hcompilerShown : compiler.strip ≠ []) (hflagsShown : flags.strip ≠ [])
    (hcompilerWords : split compiler = .ok compilerWords) (hflagWords : split flags = .ok flagWords)
    (input output : Text) :
    (split (CompileCommand.lineOf toolchain language input output) =
        .ok (compilerWords ++ flagWords ++ (["-g", "-c", "-o", output, input] : List Text)) ↔
      TrimsCleanly compiler ∧ TrimsCleanly flags) ∧
    (((∃ own, split flags.strip = .ok own) ∧
      ∃ words, split (CompileCommand.lineOf toolchain language input output) =
        .ok (words ++ (["-g", "-c", "-o", output, input] : List Text))) ∨
    (split flags.strip = .error .noEscapedCharacter ∧
      ∃ words last, split (CompileCommand.lineOf toolchain language input output) =
        .ok (words ++ (last ++ " -g".toList) :: (["-c", "-o", output, input] : List Text)))) := by
  have hcompilerPart := Toolchain.compiler_of_set hread hcompiler hcompilerShown
  have hflagsPart := Toolchain.flags_of_set hread hflags
  have hline := @lineOf_eq toolchain language (by rwa [hcompilerPart, Text.strip_strip])
    (by rwa [hflagsPart, Text.strip_strip]) input output
  rw [hcompilerPart, hflagsPart] at hline
  constructor
  · constructor
    · intro hsplit
      rw [hline] at hsplit
      exact trimsCleanly_of_split hcompilerWords hflagWords hcompilerShown hflagsShown hsplit
    · rintro ⟨hcompilerTrims, hflagsTrims⟩
      refine split_lineOf hread ?_ ?_ input output
      · rw [hcompilerPart, hcompilerTrims.split_strip, hcompilerWords]
      · rw [hflagsPart, hflagsTrims.split_strip, hflagWords]
  · have hcompilerOpen := (load_strip_of_split hcompilerWords hcompilerShown).1
    have hflagsOpen := (load_strip_of_split hflagWords hflagsShown).1
    obtain ⟨c, rest, hstrip⟩ := List.exists_cons_of_ne_nil hflagsShown
    have halike := (hcompilerOpen.alike_append (not_isSeparator_of_strip hstrip) rest).1
    rw [← hstrip] at halike
    have hopen : EndsOpen (compiler.strip ++ ' ' :: flags.strip) := by
      unfold EndsOpen
      rwa [halike.mode]
    rw [hline, ← List.cons_append, ← List.append_assoc]
    refine (split_append_fixed_words hopen input output).imp ?_ ?_
    · rintro ⟨hmode, hwords⟩
      rw [halike.mode] at hmode
      exact ⟨⟨(ofLine flags.strip).close.words, split_eq_ok_iff.mpr ⟨hmode, rfl⟩⟩, hwords⟩
    · rintro ⟨hmode, hwords⟩
      rw [halike.mode] at hmode
      refine ⟨?_, hwords⟩
      rw [split, ← ofLine, Scan.finish, hmode]

theorem words_survive_trimming_of_padded_values :
    split (CompileCommand.lineOf { cCompiler := "ccache cc", cFlags := "-I 'a b'" } .c "f.c" "x.o") =
      .ok (["ccache", "cc", "-I", "a b", "-g", "-c", "-o", "x.o", "f.c"].map String.toList) := by
  have hcompiler : TrimsCleanly "\tccache cc\n" :=
    ⟨⟨"\t", "\n", rfl, List.all_eq_true.mp (by decide)⟩, _, rfl⟩
  have hflags : TrimsCleanly " -I 'a b'" := ⟨⟨" ", [], rfl, List.all_eq_true.mp (by decide)⟩, _, rfl⟩
  have hread : Toolchain.ofEnvironment
      (Environment.ofList [("CC", "\tccache cc\n"), ("CFLAGS", " -I 'a b'")]) =
        .ok { cCompiler := "ccache cc", cFlags := "-I 'a b'" } := rfl
  have hcompilerWords : split "\tccache cc\n" = .ok ["ccache", "cc"] := rfl
  have hflagWords : split " -I 'a b'" = .ok ["-I", "a b"] := rfl
  obtain ⟨hsurvive, _⟩ := @words_survive_trimming_iff _ _ .c _ _ _ _ hread rfl rfl (by decide)
    (by decide) hcompilerWords hflagWords "f.c" "x.o"
  exact hsurvive.mpr ⟨hcompiler, hflags⟩

/-- An escaped blank is trimmed off without its escape, which then takes in the word that asks for debug
information. A blank that separates no words is lost to the word that it ends. -/
theorem trimming_changes_words :
    (Toolchain.ofEnvironment (Environment.ofList [("CC", "cc"), ("CFLAGS", "-DX=\\ ")]) =
        .ok { cCompiler := "cc", cFlags := "-DX=\\" } ∧
      split "cc" = .ok ["cc"] ∧ split "-DX=\\ " = .ok ["-DX= "] ∧
      split (CompileCommand.lineOf { cCompiler := "cc", cFlags := "-DX=\\" } .c "/w/f.c" "x.o") =
        .ok (["cc", "-DX= -g", "-c", "-o", "x.o", "/w/f.c"].map String.toList) ∧
      split (CompileCommand.lineOf { cCompiler := "cc", cFlags := "-DX=\\" } .c "/w/f.c" "x.o") ≠
        .ok (["cc", "-DX= ", "-g", "-c", "-o", "x.o", "/w/f.c"].map String.toList)) ∧
    Toolchain.ofEnvironment (Environment.ofList [("CC", "cc"), ("CFLAGS", "-DX=\u00a0")]) =
        .ok { cCompiler := "cc", cFlags := "-DX=" } ∧
      split "-DX=\u00a0" = .ok ["-DX=\u00a0"] ∧
      split (CompileCommand.lineOf { cCompiler := "cc", cFlags := "-DX=" } .c "/w/f.c" "x.o") ≠
        .ok (["cc", "-DX=\u00a0", "-g", "-c", "-o", "x.o", "/w/f.c"].map String.toList) := by
  refine ⟨⟨rfl, rfl, rfl, ?_, ?_⟩, rfl, rfl, ?_⟩
  · decide +kernel
  · decide +kernel
  · decide +kernel

end ShellWords

end AsmLens
