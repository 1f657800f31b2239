import AsmLens.Listing.Line

namespace AsmLens

/-- A listing to show: the index of the line to mark, if one was found, and how many lines to show on
either side of it, where zero or less shows all. -/
structure View where
  listing : Text
  marked : Option Int
  context : Int
  deriving DecidableEq, Repr

/-- The indexes from `start` up to but not including `stop`. -/
structure Window where
  start : Int
  stop : Int
  deriving DecidableEq, Repr

namespace Window

def size (window : Window) : Nat :=
  (window.stop - window.start).toNat

def holds (window : Window) (index : Nat) : Bool :=
  window.start ≤ index && index < window.stop

end Window

namespace View

/-- The window around the marked line, cut off at both ends of the listing. -/
def window (view : View) (lineCount : Int) : Window :=
  match view.marked with
  | none => ⟨0, lineCount⟩
  | some marked =>
      if view.context ≤ 0 then
        ⟨0, lineCount⟩
      else
        ⟨max 0 (marked - view.context), min lineCount (marked + view.context + 1)⟩

/-- A line on show. -/
structure Row where
  line : ListingLine
  isMarked : Bool
  deriving DecidableEq, Repr

def rows (view : View) : List Row :=
  let lines := view.listing.listingLines
  let window := view.window lines.length
  (lines.zipIdx.filter fun entry => window.holds entry.2).map fun entry =>
    ⟨entry.1, view.marked = some (entry.2 : Int)⟩

end View

end AsmLens
