import AsmLens.SourceArgument
import Mathlib.Data.List.Basic

/-!
# A file and a line in one argument

An argument that reads `FILE:DIGITS` is cut at its last colon. The file may hold more colons and digits
before that one: the digits after it are a run without colons, so there is one way only to read the
argument. A decimal number is read back from its digits, and unless something is there under the whole
argument as a name, it asks for the same as its file with the line given apart.
-/

namespace AsmLens

namespace Text

variable {c : Char}

/-! ### Decimal digits -/

theorem digitValue?_of_isDigit (hc : c.isDigit = true) : digitValue? c = some (c.toNat - '0'.toNat) := by
  have hrange : 0x30 ≤ c.toNat ∧ c.toNat < 0x30 + 10 := by
    simp only [Char.isDigit, Bool.and_eq_true, decide_eq_true_eq] at hc
    exact ⟨hc.1, Nat.lt_succ_of_le hc.2⟩
  have hfirst : zeros.find? (fun first => first ≤ c.toNat && c.toNat < first + 10) = some 0x30 := by
    rw [zeros, List.find?_cons_of_pos]
    simpa using hrange
  rw [digitValue?, hfirst]
  rfl

theorem isDigit_of_mem_decimal {number : Nat} (hc : c ∈ ofNat number) : isDigit c = true := by
  have hdigit : c.isDigit = true := Nat.isDigit_of_mem_toDigits (by decide) (by decide) hc
  rw [isDigit, digitValue?_of_isDigit hdigit]
  rfl

theorem natOfDigits_ofNat (number : Nat) : natOfDigits (ofNat number) = number := by
  have hvalue : natOfDigits (ofNat number) =
      (ofNat number).foldl (fun value c => 10 * value + (c.toNat - '0'.toNat)) 0 := by
    apply List.foldl_ext
    intro value c hc
    have hdigit : c.isDigit = true := Nat.isDigit_of_mem_toDigits (by decide) (by decide) hc
    rw [digitValue?_of_isDigit hdigit, Option.getD_some]
  calc natOfDigits (ofNat number)
      = Nat.ofDigitChars 10 (ofNat number) 0 := by rw [hvalue, Nat.ofDigitChars_eq_foldl]
    _ = number := Nat.ofDigitChars_ten_toDigits

end Text

namespace SourceArgument

variable {source file digits : Text}

/-- The argument is a file, a colon and digits of any script. One line feed may stand at its end, and the
file holds none. -/
structure ReadsAs (source file digits : Text) : Prop where
  source_eq : source = file ++ ':' :: digits ∨ source = file ++ ':' :: digits ++ ['\n']
  file_ne_nil : file ≠ []
  lineFeed_not_mem : '\n' ∉ file
  digits_ne_nil : digits ≠ []
  isDigit : ∀ c ∈ digits, Text.isDigit c = true

theorem ReadsAs.dropFinalNewline_eq (hreads : ReadsAs source file digits) :
    source.dropFinalNewline = file ++ ':' :: digits := by
  rcases hreads.source_eq with rfl | rfl
  · apply Text.dropFinalNewline_of_getLast?
    rw [List.getLast?_append_cons, List.getLast?_cons_of_ne_nil hreads.digits_ne_nil]
    intro hlast
    have hdigit := hreads.isDigit '\n' (List.mem_of_getLast? hlast)
    exact absurd hdigit (by decide)
  · exact Text.dropFinalNewline_concat _

theorem readsAs_of_position? (hposition : position? source = some (file, digits)) :
    ReadsAs source file digits := by
  simp only [position?] at hposition
  split at hposition
  · next rest hrest =>
      split at hposition
      · contradiction
      · next hproper =>
          obtain ⟨rfl, rfl⟩ := Prod.mk.inj (Option.some.inj hposition)
          simp only [Bool.or_eq_true, List.isEmpty_iff, List.reverse_eq_nil_iff, List.contains_iff_mem,
            not_or] at hproper
          obtain ⟨⟨hdigits, hrestNe⟩, hfeed⟩ := hproper
          have htext : source.dropFinalNewline =
              rest.reverse ++ ':' :: (source.dropFinalNewline.reverse.takeWhile Text.isDigit).reverse := by
            calc source.dropFinalNewline
                = (source.dropFinalNewline.reverse.takeWhile Text.isDigit ++
                    source.dropFinalNewline.reverse.dropWhile Text.isDigit).reverse := by
                  rw [List.takeWhile_append_dropWhile, List.reverse_reverse]
              _ = _ := by
                  rw [hrest, List.reverse_append, List.reverse_cons, List.append_assoc,
                    List.singleton_append]
          refine ⟨?_, ?_, ?_, ?_, ?_⟩
          · rw [← htext]
            exact source.eq_or_eq_dropFinalNewline
          · rwa [Ne, List.reverse_eq_nil_iff]
          · rwa [List.mem_reverse]
          · rwa [Ne, List.reverse_eq_nil_iff]
          · intro c hc
            exact List.all_eq_true.mp List.all_takeWhile c (List.mem_reverse.mp hc)
  · contradiction

theorem ReadsAs.position?_eq (hreads : ReadsAs source file digits) :
    position? source = some (file, digits) := by
  have hreverse : source.dropFinalNewline.reverse = digits.reverse ++ ':' :: file.reverse := by
    rw [hreads.dropFinalNewline_eq, List.reverse_append, List.reverse_cons, List.append_assoc,
      List.singleton_append]
  have hdigits : ∀ c ∈ digits.reverse, Text.isDigit c = true := fun c hc =>
    hreads.isDigit c (List.mem_reverse.mp hc)
  have hcolon : ¬ Text.isDigit ':' = true := by decide
  have htake : (digits.reverse ++ ':' :: file.reverse).takeWhile Text.isDigit = digits.reverse := by
    rw [List.takeWhile_append_of_pos hdigits, List.takeWhile_cons_of_neg hcolon, List.append_nil]
  have hdrop : (digits.reverse ++ ':' :: file.reverse).dropWhile Text.isDigit = ':' :: file.reverse := by
    rw [List.dropWhile_append_of_pos hdigits, List.dropWhile_cons_of_neg hcolon]
  have hproper : ¬ (digits.isEmpty || file.reverse.isEmpty || file.reverse.contains '\n') = true := by
    simp [hreads.digits_ne_nil, hreads.file_ne_nil, hreads.lineFeed_not_mem]
  simp only [position?, hreverse, htake, hdrop, List.reverse_reverse]
  rw [if_neg hproper]

variable {tree : FileTree}

theorem read_of_isThere (hthere : tree.isThere (Path.ofText source) = .ok true) :
    read tree source none = .ok (Path.ofText source, 1) := by
  rw [read]
  split
  · rfl
  · rw [hthere]

theorem ReadsAs.read_eq (hreads : ReadsAs source file digits)
    (habsent : tree.isThere (Path.ofText source) = .ok false) (hdigits : digits.length ≤ Text.digitLimit) :
    read tree source none = .ok (Path.ofText file, Text.natOfDigits digits) := by
  rw [read, hreads.position?_eq]
  simp only [habsent]
  rw [if_neg (Nat.not_lt_of_le hdigits)]

theorem read_of_not_readsAs (hother : ∀ file digits, ¬ ReadsAs source file digits) :
    read tree source none = .ok (Path.ofText source, 1) := by
  cases hposition : position? source with
  | none => rw [read, hposition]
  | some position =>
      obtain ⟨file, digits⟩ := position
      exact absurd (readsAs_of_position? hposition) (hother file digits)

theorem readsAs_decimal (hfile : file ≠ []) (hfeed : '\n' ∉ file) (number : Nat) :
    ReadsAs (file ++ ':' :: Text.ofNat number) file (Text.ofNat number) where
  source_eq := .inl rfl
  file_ne_nil := hfile
  lineFeed_not_mem := hfeed
  digits_ne_nil := Nat.toDigits_ne_nil
  isDigit := fun _ hc => Text.isDigit_of_mem_decimal hc

/-- Whatever colons and digits a file has in its name, the name with a colon and a decimal number asks for
the same as the name with the number given apart, unless something is there under all of it. Then, and for
every argument of another form, the argument is a name and the line is the first; and it is a name whenever
a line is given apart. -/
theorem position_and_given_line_agree (tree : FileTree) :
    (∀ (file : Text) (number : Nat), file ≠ [] → '\n' ∉ file →
      (Text.ofNat number).length ≤ Text.digitLimit →
      tree.isThere (Path.ofText (file ++ ':' :: Text.ofNat number)) = .ok false →
      read tree (file ++ ':' :: Text.ofNat number) none = .ok (Path.ofText file, number) ∧
        read tree file (some number) = .ok (Path.ofText file, number)) ∧
    (∀ source, tree.isThere (Path.ofText source) = .ok true →
      read tree source none = .ok (Path.ofText source, 1)) ∧
    (∀ source line, read tree source (some line) = .ok (Path.ofText source, line)) ∧
    ∀ source, (∀ file digits, ¬ ReadsAs source file digits) →
      read tree source none = .ok (Path.ofText source, 1) := by
  refine ⟨?_, fun source => read_of_isThere, fun source line => rfl, fun source => read_of_not_readsAs⟩
  intro file number hfile hfeed hlimit habsent
  have hread := (readsAs_decimal hfile hfeed number).read_eq habsent hlimit
  rw [Text.natOfDigits_ofNat] at hread
  exact ⟨hread, rfl⟩

/-- A file whose name reads as a position itself. -/
def namedLikePosition : FileTree :=
  ⟨["w"], [(["a.c:3", "w"], .file [] false), (["w"], .directory)]⟩

theorem position_and_given_line_agree_of_name_like_position :
    namedLikePosition.isThere (Path.ofText "a.c:3:4") = .ok false ∧
      read namedLikePosition "a.c:3:4" none = .ok (Path.ofText "a.c:3", 4) ∧
      namedLikePosition.isThere (Path.ofText "a.c:3") = .ok true ∧
      read namedLikePosition "a.c:3" none = .ok (Path.ofText "a.c:3", 1) ∧
      read namedLikePosition "a.c:" none = .ok (Path.ofText "a.c:", 1) := by
  have habsent : namedLikePosition.isThere (Path.ofText "a.c:3:4") = .ok false := rfl
  have hthere : namedLikePosition.isThere (Path.ofText "a.c:3") = .ok true := rfl
  have hother : ∀ file digits, ¬ ReadsAs "a.c:" file digits := by
    intro file digits hreads
    have hnone : position? "a.c:" = none := by decide
    rw [hreads.position?_eq] at hnone
    contradiction
  obtain ⟨hposition, hliteral, _, hname⟩ := position_and_given_line_agree namedLikePosition
  have hread := hposition "a.c:3" 4 (by decide) (by decide) (by decide) habsent
  exact ⟨habsent, hread.1, hthere, hliteral _ hthere, hname _ hother⟩

end SourceArgument

end AsmLens
