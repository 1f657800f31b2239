import AsmLens.Path
import AsmLens.Text.Blank
import AsmLens.Text.Search

namespace AsmLens

inductive MatchKind where
  | sourceLine
  | marker
  deriving DecidableEq, Repr

def MatchKind.tag : MatchKind → Text
  | .sourceLine => "source_line"
  | .marker => "marker"

/-- Where a source line was found in a listing, and what was searched for. -/
structure ListingMatch where
  offset : Nat
  lineIndex : Nat
  matchedBy : MatchKind
  needle : Text
  deriving DecidableEq, Repr

namespace ListingMatch

/-- What a disassembler writes in front of the instructions of a source line. -/
def markerOf (path : Path) (line : Int) : Text :=
  path.name ++ ":" ++ Text.ofInt line

/-- The first place of a needle; lines are counted by line feeds. -/
def search? (listing : Text) (kind : MatchKind) (needle : Text) : Option ListingMatch :=
  (Text.offsetOf? needle listing).map fun offset =>
    ⟨offset, (listing.take offset).count '\n', kind, needle⟩

/-- The source line itself comes before its marker. A blank line and an empty marker would be found
anywhere, so neither is searched for. -/
def find? (listing sourceLine marker : Text) : Option ListingMatch :=
  let bySource := if sourceLine.strip.isEmpty then none else search? listing .sourceLine sourceLine
  let byMarker := if marker.isEmpty then none else search? listing .marker marker
  bySource.or byMarker

/-- Whichever of the two was searched for, it is not empty, and the match is its first place. -/
theorem search?_of_find? {listing sourceLine marker : Text} {found : ListingMatch}
    (hfound : find? listing sourceLine marker = some found) :
    found.needle ≠ [] ∧ search? listing found.matchedBy found.needle = some found := by
  have hsearch : ∀ {kind needle}, search? listing kind needle = some found →
      found.matchedBy = kind ∧ found.needle = needle := by
    intro kind needle hsome
    obtain ⟨offset, _, rfl⟩ := Option.map_eq_some_iff.mp hsome
    exact ⟨rfl, rfl⟩
  rcases Option.or_eq_some_iff.mp hfound with hsource | ⟨_, hmarker⟩
  · split at hsource
    · contradiction
    · next hblank =>
        obtain ⟨hkind, hneedle⟩ := hsearch hsource
        refine ⟨?_, by rw [hkind, hneedle, hsource]⟩
        rw [hneedle]
        rintro rfl
        exact hblank rfl
  · split at hmarker
    · contradiction
    · next hempty =>
        obtain ⟨hkind, hneedle⟩ := hsearch hmarker
        refine ⟨?_, by rw [hkind, hneedle, hmarker]⟩
        rw [hneedle]
        rintro rfl
        exact hempty rfl

/-- A match starts at a character of the listing and has the number of line feeds before it. -/
theorem offset_lt_length_of_find? {listing sourceLine marker : Text} {found : ListingMatch}
    (hfound : find? listing sourceLine marker = some found) :
    found.offset < listing.length ∧ found.lineIndex = (listing.take found.offset).count '\n' := by
  obtain ⟨hneedle, hsearch⟩ := search?_of_find? hfound
  obtain ⟨offset, hoffset, heq⟩ := Option.map_eq_some_iff.mp hsearch
  have hoffset' : found.offset = offset := by rw [← heq]
  have hindex : found.lineIndex = (listing.take offset).count '\n' := by rw [← heq]
  rw [hoffset', hindex]
  exact ⟨(Text.occursAt_of_offsetOf? hoffset).lt_length hneedle, rfl⟩

end ListingMatch

end AsmLens
