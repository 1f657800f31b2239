import AsmLens.Proofs.FirstPlace
import AsmLens.Text.Digit
import Mathlib.Data.List.DropRight

/-!
# What a marker refers to

A listing refers to a line of a file by the name of the file and the number of the line, and a marker is
searched for as a text. So it is also found within a reference to a file with a longer name, or to a line
whose number goes on. A match by the marker is the first of all these references, and it is the one asked
for exactly when its name and its number are no longer.
-/

namespace AsmLens

theorem Text.occursAt_iff_exists {needle text : Text} {offset : Nat} :
    Text.OccursAt needle text offset ↔
      ∃ before after, text = before ++ (needle ++ after) ∧ before.length = offset := by
  constructor
  · rintro ⟨⟨after, hafter⟩, hlength⟩
    refine ⟨text.take offset, after, ?_, List.length_take_of_le hlength⟩
    rw [hafter, List.take_append_drop]
  · rintro ⟨before, after, rfl, rfl⟩
    refine ⟨⟨after, ?_⟩, by simp⟩
    rw [List.drop_left]

namespace ListingMatch

/-- A name begins after a path separator or with a line. -/
def opensName (c : Char) : Bool :=
  c = '/' || Text.isLineEnd c

def reference (name number : Text) : Text :=
  name ++ ":" ++ number

theorem markerOf_eq_reference (path : Path) (line : Int) :
    markerOf path line = reference path.name (Text.ofInt line) :=
  rfl

/-- A reference stands at the offset, and it is not part of a longer one. -/
structure RefersAt (listing : Text) (offset : Nat) (name number : Text) : Prop where
  occurs : Text.OccursAt (reference name number) listing offset
  begins : ∀ c, (listing.take offset).getLast? = some c → opensName c = true
  ends : ∀ c, listing[offset + (reference name number).length]? = some c → Text.isDigit c = false

/-- The longest reference around the one at the offset, with this much more to its name and these more
digits to its number. -/
structure StandsWithin (listing : Text) (offset : Nat) (name number more digits : Text) : Prop where
  name_goes_on : ∀ c ∈ more, opensName c = false
  number_goes_on : ∀ c ∈ digits, Text.isDigit c = true
  length_le : more.length ≤ offset
  refers : RefersAt listing (offset - more.length) (more ++ name) (number ++ digits)

variable {listing name number more digits : Text} {offset : Nat}

theorem refersAt_append_iff {before after : Text} :
    RefersAt (before ++ (reference name number ++ after)) before.length name number ↔
      (∀ c, before.getLast? = some c → opensName c = true) ∧
        ∀ c, after.head? = some c → Text.isDigit c = false := by
  have htake : (before ++ (reference name number ++ after)).take before.length = before :=
    List.take_left
  have hnext : (before ++ (reference name number ++ after))[before.length +
      (reference name number).length]? = after.head? := by
    rw [← List.append_assoc, ← List.length_append, List.getElem?_append_right (Nat.le_refl _),
      Nat.sub_self, List.head?_eq_getElem?]
  constructor
  · rintro ⟨_, hbegins, hends⟩
    rw [htake] at hbegins
    rw [hnext] at hends
    exact ⟨hbegins, hends⟩
  · rintro ⟨hbegins, hends⟩
    refine ⟨Text.occursAt_iff_exists.mpr ⟨before, after, rfl, rfl⟩, ?_, ?_⟩
    · rwa [htake]
    · rwa [hnext]

/-- A reference with a longer name and a longer number holds the shorter one. -/
theorem append_reference_append (before more name number digits after : Text) :
    before ++ (reference (more ++ name) (number ++ digits) ++ after) =
      before ++ more ++ (reference name number ++ (digits ++ after)) := by
  simp [reference]

theorem exists_name_begins (before : Text) :
    ∃ outside more, before = outside ++ more ∧ (∀ c ∈ more, opensName c = false) ∧
      ∀ c, outside.getLast? = some c → opensName c = true := by
  refine ⟨before.rdropWhile (!opensName ·), before.rtakeWhile (!opensName ·),
    List.rdropWhile_append_rtakeWhile.symm, ?_, ?_⟩
  · intro c hc
    simpa using List.mem_rtakeWhile_imp hc
  · intro c hc
    obtain ⟨hne, rfl⟩ := List.mem_getLast?_eq_getLast hc
    simpa using List.rdropWhile_last_not (!opensName ·) before hne

theorem exists_number_ends (after : Text) :
    ∃ digits outside, after = digits ++ outside ∧ (∀ c ∈ digits, Text.isDigit c = true) ∧
      ∀ c, outside.head? = some c → Text.isDigit c = false := by
  refine ⟨after.takeWhile Text.isDigit, after.dropWhile Text.isDigit,
    List.takeWhile_append_dropWhile.symm, ?_, ?_⟩
  · exact fun c hc => List.all_eq_true.mp List.all_takeWhile c hc
  · intro c hc
    have hhead := List.head?_dropWhile_not Text.isDigit after
    rwa [hc] at hhead

/-- Around every reference there is the longest one. -/
theorem exists_standsWithin (hoccurs : Text.OccursAt (reference name number) listing offset) :
    ∃ more digits, StandsWithin listing offset name number more digits := by
  obtain ⟨before, after, rfl, rfl⟩ := Text.occursAt_iff_exists.mp hoccurs
  obtain ⟨left, more, rfl, hmore, hleft⟩ := exists_name_begins before
  obtain ⟨digits, right, rfl, hdigits, hright⟩ := exists_number_ends after
  refine ⟨more, digits, hmore, hdigits, by simp, ?_⟩
  rw [← append_reference_append, List.length_append, Nat.add_sub_cancel, refersAt_append_iff]
  exact ⟨hleft, hright⟩

/-- A reference within another one is not part of a longer one only if the two are the same. -/
theorem StandsWithin.refersAt_iff (hwithin : StandsWithin listing offset name number more digits) :
    RefersAt listing offset name number ↔ more = [] ∧ digits = [] := by
  obtain ⟨before, after, hlisting, hlength⟩ := Text.occursAt_iff_exists.mp hwithin.refers.occurs
  have hle := hwithin.length_le
  have hoffset : offset = (before ++ more).length := by
    rw [List.length_append]
    omega
  rw [append_reference_append] at hlisting
  constructor
  · intro hrefers
    rw [hlisting, hoffset, refersAt_append_iff] at hrefers
    obtain ⟨hbegins, hends⟩ := hrefers
    constructor
    · by_contra hne
      have hlast : (before ++ more).getLast? = some (more.getLast hne) := by
        rw [List.getLast?_append, List.getLast?_eq_some_getLast hne, Option.some_or]
      have hopens := hbegins _ hlast
      rw [hwithin.name_goes_on _ (List.getLast_mem hne)] at hopens
      contradiction
    · by_contra hne
      have hhead : (digits ++ after).head? = some (digits.head hne) := by
        rw [List.head?_append, List.head?_eq_some_head hne, Option.some_or]
      have hdigit := hends _ hhead
      rw [hwithin.number_goes_on _ (List.head_mem hne)] at hdigit
      contradiction
  · rintro ⟨rfl, rfl⟩
    have hrefers := hwithin.refers
    rwa [List.nil_append, List.append_nil, List.length_nil, Nat.sub_zero] at hrefers

theorem RefersAt.occurs_within (hrefers : RefersAt listing offset (more ++ name) (number ++ digits)) :
    Text.OccursAt (reference name number) listing (offset + more.length) := by
  obtain ⟨before, after, hlisting, rfl⟩ := Text.occursAt_iff_exists.mp hrefers.occurs
  rw [append_reference_append] at hlisting
  exact Text.occursAt_iff_exists.mpr ⟨before ++ more, digits ++ after, hlisting, List.length_append⟩

/-- A match by the marker stands within the first of all the references to a file whose name ends in the
name asked for and to a line whose number begins with the number asked for. It is a reference to that file
and that line, and not part of a longer one, exactly when this first reference has no more to its name and
no more digits to its number. -/
theorem marker_match_is_first_reference {sourceLine : Text} {path : Path} {line : Int}
    {found : ListingMatch} (hfound : find? listing sourceLine (markerOf path line) = some found)
    (hmarker : found.matchedBy = .marker) :
    ∃ more digits,
      StandsWithin listing found.offset path.name (Text.ofInt line) more digits ∧
      (∀ offset before after,
        RefersAt listing offset (before ++ path.name) (Text.ofInt line ++ after) →
          found.offset ≤ offset + before.length) ∧
      (RefersAt listing found.offset path.name (Text.ofInt line) ↔ more = [] ∧ digits = []) := by
  have hfirst := isFirstOf_of_find? hfound
  have hneedle : found.needle = reference path.name (Text.ofInt line) := by
    rw [hfirst.needle_eq, hmarker, needleOf, markerOf_eq_reference]
  obtain ⟨hoccurs, hearlier⟩ := hfirst.first
  rw [hneedle] at hoccurs hearlier
  obtain ⟨more, digits, hwithin⟩ := exists_standsWithin hoccurs
  refine ⟨more, digits, hwithin, ?_, hwithin.refersAt_iff⟩
  intro offset before after hrefers
  by_contra hlt
  exact hearlier _ (Nat.lt_of_not_le hlt) hrefers.occurs_within

theorem marker_match_is_first_reference_of_longer_name :
    find? "/w/gf.c:1\n   0:\tret\n/w/f.c:1\n" "" (markerOf (Path.ofText "f.c") 1) =
        some ⟨4, 0, .marker, "f.c:1"⟩ ∧
      ∃ more digits,
        StandsWithin "/w/gf.c:1\n   0:\tret\n/w/f.c:1\n" 4 "f.c" "1" more digits ∧
          (RefersAt "/w/gf.c:1\n   0:\tret\n/w/f.c:1\n" 4 "f.c" "1" ↔ more = [] ∧ digits = []) := by
  have hfound : find? "/w/gf.c:1\n   0:\tret\n/w/f.c:1\n" "" (markerOf (Path.ofText "f.c") 1) =
      some ⟨4, 0, .marker, "f.c:1"⟩ := by decide
  obtain ⟨more, digits, hwithin, _, hexact⟩ := marker_match_is_first_reference hfound rfl
  exact ⟨hfound, more, digits, hwithin, hexact⟩

/-- The marker of line 1 is found in a reference to line 12, and in one to a file with a longer name. -/
theorem longer_references_are_taken_for_marker :
    find? "/w/f.c:12\n   0:\tret\n" "int x;" (markerOf (Path.ofText "f.c") 1) =
        some ⟨3, 0, .marker, "f.c:1"⟩ ∧
      ¬ RefersAt "/w/f.c:12\n   0:\tret\n" 3 "f.c" "1" ∧
      find? "/w/gf.c:1\n   0:\tret\n" "int x;" (markerOf (Path.ofText "f.c") 1) =
        some ⟨4, 0, .marker, "f.c:1"⟩ ∧
      ¬ RefersAt "/w/gf.c:1\n   0:\tret\n" 4 "f.c" "1" := by
  refine ⟨by decide, fun hrefers => ?_, by decide, fun hrefers => ?_⟩
  · have hdigit := hrefers.ends '2' (by decide)
    exact absurd hdigit (by decide)
  · have hopens := hrefers.begins 'g' (by decide)
    exact absurd hopens (by decide)

end ListingMatch

end AsmLens
