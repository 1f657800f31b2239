import AsmLens.Shell.Regex.Basic

namespace AsmLens.Shell

/-- How a text is looked at. With more than one line, a line starts after each line feed, and a set that
is told by what is not in it has no line feed. -/
structure Matching where
  ignoresCase : Bool := false
  hasLines : Bool := false
  deriving DecidableEq

namespace Matching

def takes (matching : Matching) (set : CharSet) (c : Char) : Bool :=
  let isIn : Bool := if matching.ignoresCase then set.hasInSomeCase c else set.has c
  isIn && !(matching.hasLines && set.isNegated && c = '\n')

/-- Whether the text of a group stands at the start of another text. -/
def repeats (matching : Matching) (text rest : Text) : Bool :=
  let lower (text : Text) : Text := if matching.ignoresCase then text.map Char.toLower else text
  (lower text).isPrefixOf (lower rest)

end Matching

/-- A place that a regular expression has come to: how many characters it has passed, which one was
the last, what is left, and the texts of the groups. -/
structure Place where
  passed : Nat := 0
  before : Option Char := none
  rest : Text
  groups : List (Nat × Text) := []

namespace Place

def group? (place : Place) (number : Nat) : Option Text :=
  (place.groups.find? fun entry => entry.1 = number).map Prod.snd

def advance (place : Place) (count : Nat) : Place :=
  if count = 0 then place
  else
    { place with
      passed := place.passed + count
      before := (place.rest.take count).getLast?
      rest := place.rest.drop count }

/-- A place at the end of a group that has started at another one. -/
def closeGroup (place : Place) (number : Nat) (after : Place) : Place :=
  { after with
    groups :=
      (number, place.rest.take (after.passed - place.passed)) ::
        after.groups.filter fun entry => entry.1 ≠ number }

/-- Whether two places count as one. What is in their groups matters if it is asked for again. -/
def isSame (looksBack : Bool) (first second : Place) : Bool :=
  first.passed = second.passed && (!looksBack || first.groups = second.groups)

/-- Leaves one of all neighbours that count as one. -/
def distinct (looksBack : Bool) : Option Place → List Place → List Place
  | _, [] => []
  | last, place :: rest =>
      if last.any (isSame looksBack place) then distinct looksBack last rest
      else place :: distinct looksBack (some place) rest

/-- Puts places together so that the farthest ones come first. -/
def merge (looksBack : Bool) (first second : List Place) : List Place :=
  distinct looksBack none (first.merge second fun a b => b.passed ≤ a.passed)

def isAt (matching : Matching) (place : Place) : Boundary → Bool
  | .lineStart => place.before.all fun c => matching.hasLines && c = '\n'
  | .lineEnd => place.rest.head?.all fun c => matching.hasLines && c = '\n'
  | .textStart => place.before.isNone
  | .textEnd => place.rest.isEmpty
  | .wordStart => !comesAfterWord place && comesBeforeWord place
  | .wordEnd => comesAfterWord place && !comesBeforeWord place
  | .wordEdge => comesAfterWord place != comesBeforeWord place
  | .inside => comesAfterWord place == comesBeforeWord place
where
  comesAfterWord (place : Place) : Bool := place.before.any isWordChar
  comesBeforeWord (place : Place) : Bool := place.rest.head?.any isWordChar

end Place

namespace Regex

/-- Takes a step again and again, at least and at most so many times. Of places that it comes back to, no
steps are taken any more. -/
def repeatStep (looksBack : Bool) (step : Place → List Place) :
    Nat → Nat → Option Nat → List Place → List Place → List Place
  | 0, _, _, _, found => found
  | _, _, _, [], found => found
  | rounds + 1, least, most, places, found =>
      if most = some 0 then found
      else
        let next := (places.map step).foldr (Place.merge looksBack) []
        let most := most.map (· - 1)
        match least with
        | least + 1 =>
            repeatStep looksBack step rounds least most next (if least = 0 then next else found)
        | 0 =>
            let new := next.filter fun place => !found.any (Place.isSame looksBack place)
            repeatStep looksBack step rounds 0 most new (Place.merge looksBack new found)

/-- The places that an expression leads to from some place, the farthest ones first. -/
def ends (matching : Matching) (looksBack : Bool) : Regex → Place → List Place
  | .empty, place => [place]
  | .oneOf set, place =>
      match place.rest with
      | c :: _ => if matching.takes set c then [place.advance 1] else []
      | [] => []
  | .boundary edge, place => if place.isAt matching edge then [place] else []
  | .again number, place =>
      match place.group? number with
      | none => []
      | some text => if matching.repeats text place.rest then [place.advance text.length] else []
  | .group number body, place =>
      (ends matching looksBack body place).map (place.closeGroup number)
  | .both first second, place =>
      ((ends matching looksBack first place).map (ends matching looksBack second)).foldr
        (Place.merge looksBack) []
  | .either first second, place =>
      Place.merge looksBack (ends matching looksBack first place)
        (ends matching looksBack second place)
  | .repeated body least most, place =>
      repeatStep looksBack (ends matching looksBack body) (least + place.rest.length + 2) least most
        [place] (if least = 0 then [place] else [])

end Regex

/-- A part of a text that a regular expression has found, what is before and after it, and the texts of
the groups. -/
structure Found where
  skipped : Text
  matched : Text
  rest : Text
  groups : List (Nat × Text)

def Found.group (found : Found) (number : Nat) : Text :=
  if number = 0 then found.matched
  else ((found.groups.find? fun entry => entry.1 = number).map Prod.snd).getD []

namespace Regex

/-- The longest part of a text, from its start on. -/
def matchHere? (regex : Regex) (matching : Matching) (before : Option Char) (text : Text) :
    Option Found :=
  (regex.ends matching regex.looksBack { before, rest := text }).head?.map fun place =>
    ⟨[], text.take place.passed, place.rest, place.groups⟩

/-- The first of all parts of a text, and of those the longest one. -/
def find? (regex : Regex) (matching : Matching) : Option Char → Text → Option Found
  | before, [] => regex.matchHere? matching before []
  | before, c :: rest =>
      match regex.matchHere? matching before (c :: rest) with
      | some found => some found
      | none =>
          (find? regex matching (some c) rest).map fun found =>
            { found with skipped := c :: found.skipped }

def isIn (regex : Regex) (matching : Matching) (text : Text) : Bool :=
  (regex.find? matching none text).isSome

end Regex

end AsmLens.Shell
