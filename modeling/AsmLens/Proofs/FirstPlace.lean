import AsmLens.Proofs.LiteralMatch

/-!
# The place that a search finds

A search goes through a text from its start, so it finds the first place of its needle, however the places
of the needle overlap. Of the two needles that are searched for in a listing the source line goes first:
the marker counts only where the line is blank or stands nowhere, and without either there is no match.
-/

namespace AsmLens

namespace Text

/-- The needle stands at the offset and nowhere before it. -/
def FirstAt (needle text : Text) (offset : Nat) : Prop :=
  OccursAt needle text offset ∧ ∀ earlier < offset, ¬ OccursAt needle text earlier

theorem OccursAt.isInfix {needle text : Text} {offset : Nat} (hoccurs : OccursAt needle text offset) :
    needle <:+: text :=
  hoccurs.1.isInfix.trans (List.drop_suffix offset text).isInfix

theorem FirstAt.unique {needle text : Text} {offset other : Nat} (hoffset : FirstAt needle text offset)
    (hother : FirstAt needle text other) : offset = other := by
  rcases Nat.lt_trichotomy offset other with hlt | heq | hgt
  · exact absurd hoffset.1 (hother.2 offset hlt)
  · exact heq
  · exact absurd hother.1 (hoffset.2 other hgt)

theorem not_occursAt_of_lt_offsetOf? {needle text : Text} {offset earlier : Nat}
    (hfound : offsetOf? needle text = some offset) (hearlier : earlier < offset) :
    ¬ OccursAt needle text earlier := by
  induction text generalizing offset earlier with
  | nil =>
      have hzero : offset ≤ 0 := (occursAt_of_offsetOf? hfound).2
      omega
  | cons c rest ih =>
      rw [offsetOf?] at hfound
      split at hfound
      · have hzero : 0 = offset := Option.some.inj hfound
        omega
      · next hstart =>
          obtain ⟨before, hbefore, rfl⟩ := Option.map_eq_some_iff.mp hfound
          intro hoccurs
          cases earlier with
          | zero => exact hstart (List.isPrefixOf_iff_prefix.mpr hoccurs.1)
          | succ earlier =>
              have hlater : OccursAt needle rest earlier :=
                ⟨hoccurs.1, Nat.le_of_succ_le_succ hoccurs.2⟩
              exact ih hbefore (Nat.lt_of_succ_lt_succ hearlier) hlater

theorem offsetOf?_eq_some_iff {needle text : Text} {offset : Nat} :
    offsetOf? needle text = some offset ↔ FirstAt needle text offset := by
  constructor
  · intro hfound
    exact ⟨occursAt_of_offsetOf? hfound, fun earlier hearlier =>
      not_occursAt_of_lt_offsetOf? hfound hearlier⟩
  · intro hfirst
    cases hfound : offsetOf? needle text with
    | none => exact absurd hfirst.1.isInfix (offsetOf?_eq_none_iff.mp hfound)
    | some found =>
        have hother : FirstAt needle text found :=
          ⟨occursAt_of_offsetOf? hfound, fun earlier hearlier =>
            not_occursAt_of_lt_offsetOf? hfound hearlier⟩
        rw [hother.unique hfirst]

end Text

namespace ListingMatch

variable {listing sourceLine marker needle : Text} {kind : MatchKind} {found : ListingMatch}

def needleOf (sourceLine marker : Text) : MatchKind → Text
  | .sourceLine => sourceLine
  | .marker => marker

/-- The match is the first place of its needle, and it goes by the source line whenever that line has
something to show and stands in the listing. -/
structure IsFirstOf (listing sourceLine marker : Text) (found : ListingMatch) : Prop where
  tier : found.matchedBy = .sourceLine ↔
    ¬ (∀ c ∈ sourceLine, Text.isBlank c = true) ∧ sourceLine <:+: listing
  needle_eq : found.needle = needleOf sourceLine marker found.matchedBy
  nonempty : found.needle ≠ []
  first : Text.FirstAt found.needle listing found.offset
  lineIndex_eq : found.lineIndex = (listing.take found.offset).count '\n'

theorem search?_eq_none_iff : search? listing kind needle = none ↔ ¬ needle <:+: listing := by
  rw [search?, Option.map_eq_none_iff, Text.offsetOf?_eq_none_iff]

theorem search?_eq_some_iff :
    search? listing kind needle = some found ↔
      found.matchedBy = kind ∧ found.needle = needle ∧ Text.FirstAt needle listing found.offset ∧
        found.lineIndex = (listing.take found.offset).count '\n' := by
  rw [search?, Option.map_eq_some_iff]
  constructor
  · rintro ⟨offset, hoffset, rfl⟩
    exact ⟨rfl, rfl, Text.offsetOf?_eq_some_iff.mp hoffset, rfl⟩
  · rintro ⟨rfl, rfl, hfirst, hindex⟩
    refine ⟨found.offset, Text.offsetOf?_eq_some_iff.mpr hfirst, ?_⟩
    rw [← hindex]

theorem find?_eq_none_iff :
    find? listing sourceLine marker = none ↔
      ((∀ c ∈ sourceLine, Text.isBlank c = true) ∨ ¬ sourceLine <:+: listing) ∧
        (marker = [] ∨ ¬ marker <:+: listing) := by
  simp only [find?, Option.or_eq_none_iff, ite_eq_left_iff, search?_eq_none_iff, List.isEmpty_iff,
    Text.strip_eq_nil_iff, or_iff_not_imp_left]

theorem isFirstOf_of_find? (hfound : find? listing sourceLine marker = some found) :
    found.IsFirstOf listing sourceLine marker := by
  have hnonempty := (search?_of_find? hfound).1
  rcases Option.or_eq_some_iff.mp hfound with hsource | ⟨hsource, hmarker⟩
  · split at hsource
    · contradiction
    · next hshows =>
        obtain ⟨hkind, hneedle, hfirst, hindex⟩ := search?_eq_some_iff.mp hsource
        rw [List.isEmpty_iff, Text.strip_eq_nil_iff] at hshows
        refine ⟨iff_of_true hkind ⟨hshows, hfirst.1.isInfix⟩, ?_, hnonempty, ?_, hindex⟩
        · rw [hkind, hneedle, needleOf]
        · rwa [hneedle]
  · split at hmarker
    · contradiction
    · obtain ⟨hkind, hneedle, hfirst, hindex⟩ := search?_eq_some_iff.mp hmarker
      have hother : ¬ found.matchedBy = .sourceLine := by simp [hkind]
      refine ⟨iff_of_false hother ?_, ?_, hnonempty, ?_, hindex⟩
      · rintro ⟨hshows, hwithin⟩
        rw [← Text.strip_eq_nil_iff, ← List.isEmpty_iff] at hshows
        rw [if_neg hshows, search?_eq_none_iff] at hsource
        exact hsource hwithin
      · rw [hkind, hneedle, needleOf]
      · rwa [hneedle]

theorem IsFirstOf.unique {other : ListingMatch} (hfound : found.IsFirstOf listing sourceLine marker)
    (hother : other.IsFirstOf listing sourceLine marker) : found = other := by
  have hkind : found.matchedBy = other.matchedBy := by
    have htier := hfound.tier.trans hother.tier.symm
    cases hleft : found.matchedBy <;> cases hright : other.matchedBy <;> simp [hleft, hright] at htier ⊢
  have hneedle : found.needle = other.needle := by rw [hfound.needle_eq, hother.needle_eq, hkind]
  have hoffset : found.offset = other.offset := hfound.first.unique (hneedle ▸ hother.first)
  have hindex : found.lineIndex = other.lineIndex := by
    rw [hfound.lineIndex_eq, hother.lineIndex_eq, hoffset]
  cases found
  cases other
  rw [mk.injEq]
  exact ⟨hoffset, hindex, hkind, hneedle⟩

theorem IsFirstOf.find?_ne_none (hfound : found.IsFirstOf listing sourceLine marker) :
    find? listing sourceLine marker ≠ none := by
  rw [Ne, find?_eq_none_iff]
  rintro ⟨hsource, hmarker⟩
  have hwithin := hfound.first.1.isInfix
  have hneedle := hfound.needle_eq
  cases hkind : found.matchedBy with
  | sourceLine =>
      obtain ⟨hshows, hsourceWithin⟩ := hfound.tier.mp hkind
      exact hsource.elim hshows (absurd hsourceWithin)
  | marker =>
      rw [hkind, needleOf] at hneedle
      rw [← hneedle] at hmarker
      exact hmarker.elim hfound.nonempty (absurd hwithin)

/-- There is no match exactly when the line is blank or stands nowhere, and the marker is empty or stands
nowhere. A match is the first place of the needle whose turn it is, and no other would do. -/
theorem find?_yields_first_of_tiers (listing sourceLine marker : Text) :
    (find? listing sourceLine marker = none ↔
      ((∀ c ∈ sourceLine, Text.isBlank c = true) ∨ ¬ sourceLine <:+: listing) ∧
        (marker = [] ∨ ¬ marker <:+: listing)) ∧
    ∀ found, find? listing sourceLine marker = some found ↔
      found.IsFirstOf listing sourceLine marker := by
  refine ⟨find?_eq_none_iff, fun found => ⟨isFirstOf_of_find?, fun hfirst => ?_⟩⟩
  obtain ⟨other, hother⟩ := Option.ne_none_iff_exists'.mp hfirst.find?_ne_none
  rw [hother, (isFirstOf_of_find? hother).unique hfirst]

/-- The needle begins anew within a part of itself, and the marker stands before it. -/
example : find? "m:1\naaab" "aab" "m:1" = some ⟨5, 1, .sourceLine, "aab"⟩ := by
  decide

end ListingMatch

end AsmLens
