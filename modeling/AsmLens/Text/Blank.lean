import AsmLens.Text.Basic

namespace AsmLens.Text

/-- The characters of the Unicode property White_Space, and the four information separators. -/
def blanks : List Char :=
  ['\t', '\n', '\x0b', '\x0c', '\r', '\x1c', '\x1d', '\x1e', '\x1f', ' ', '\u0085', '\u00a0',
    '\u1680', '\u2000', '\u2001', '\u2002', '\u2003', '\u2004', '\u2005', '\u2006', '\u2007',
    '\u2008', '\u2009', '\u200a', '\u2028', '\u2029', '\u202f', '\u205f', '\u3000']

def isBlank (c : Char) : Bool :=
  blanks.contains c

def stripLeft (text : Text) : Text :=
  text.dropWhile isBlank

def stripRight (text : Text) : Text :=
  (text.reverse.dropWhile isBlank).reverse

/-- The text without the blanks around it. -/
def strip (text : Text) : Text :=
  text.stripLeft.stripRight

theorem mem_dropWhile_of_not {keep : Char → Bool} {text : Text} {c : Char} (hmem : c ∈ text)
    (hc : keep c = false) : c ∈ text.dropWhile keep := by
  rw [← List.takeWhile_append_dropWhile (p := keep) (l := text), List.mem_append] at hmem
  rcases hmem with hfirst | hrest
  · have hkept := List.all_eq_true.mp List.all_takeWhile c hfirst
    rw [hc] at hkept
    contradiction
  · exact hrest

theorem mem_strip {text : Text} {c : Char} (hmem : c ∈ text) (hc : isBlank c = false) :
    c ∈ text.strip := by
  have hleft : c ∈ text.stripLeft := mem_dropWhile_of_not hmem hc
  exact List.mem_reverse.mpr (mem_dropWhile_of_not (List.mem_reverse.mpr hleft) hc)

theorem mem_of_mem_strip {text : Text} {c : Char} (hmem : c ∈ text.strip) : c ∈ text := by
  have hleft := (List.dropWhile_suffix isBlank).subset (List.mem_reverse.mp hmem)
  exact (List.dropWhile_suffix isBlank).subset (List.mem_reverse.mp hleft)

theorem isBlank_getLast?_strip {text : Text} {c : Char} (hlast : text.strip.getLast? = some c) :
    isBlank c = false := by
  rw [strip, stripRight, List.getLast?_reverse] at hlast
  have hhead := List.head?_dropWhile_not isBlank text.stripLeft.reverse
  rw [hlast] at hhead
  exact hhead

/-- Nothing is left of a text exactly when it is blank. -/
theorem strip_eq_nil_iff {text : Text} : text.strip = [] ↔ ∀ c ∈ text, isBlank c = true := by
  constructor
  · intro hempty c hc
    by_cases hblank : isBlank c = true
    · exact hblank
    · have hmem := mem_strip hc (Bool.eq_false_iff.mpr hblank)
      rw [hempty] at hmem
      exact absurd hmem List.not_mem_nil
  · intro hblank
    cases hlast : text.strip.getLast? with
    | none => exact List.getLast?_eq_none_iff.mp hlast
    | some c =>
        have hmem : c ∈ text := mem_of_mem_strip (List.mem_of_getLast? hlast)
        have hc := isBlank_getLast?_strip hlast
        rw [hblank c hmem] at hc
        contradiction

end AsmLens.Text
