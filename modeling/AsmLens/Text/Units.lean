import AsmLens.Text.Basic

namespace AsmLens.Text

/-- The code units of a character in UTF-16: itself, or a pair of surrogates past the first plane. -/
def unitsOf (c : Char) : List Nat :=
  if c.toNat < 0x10000 then
    [c.toNat]
  else
    [0xd800 + (c.toNat - 0x10000) / 0x400, 0xdc00 + (c.toNat - 0x10000) % 0x400]

def toUnits (text : Text) : List Nat :=
  text.flatMap unitsOf

def isHighSurrogate (unit : Nat) : Bool :=
  0xd800 ≤ unit && unit < 0xdc00

def isLowSurrogate (unit : Nat) : Bool :=
  0xdc00 ≤ unit && unit < 0xe000

/-- The character of a pair of surrogates. -/
def ofPair (high low : Nat) : Char :=
  Char.ofNat (0x10000 + (high - 0xd800) * 0x400 + (low - 0xdc00))

/-- The text of code units. A surrogate that stands alone is part of no text. -/
def ofUnits? : List Nat → Option Text
  | [] => some []
  | unit :: rest =>
      if isHighSurrogate unit then
        match rest with
        | [] => none
        | low :: rest =>
            if isLowSurrogate low then (ofUnits? rest).map (ofPair unit low :: ·) else none
      else if isLowSurrogate unit then
        none
      else
        (ofUnits? rest).map (Char.ofNat unit :: ·)

theorem toNat_lt_surrogates_or_gt (c : Char) : c.toNat < 0xd800 ∨ 0xdfff < c.toNat := by
  rcases c.valid with hlow | hhigh
  · exact .inl hlow
  · exact .inr hhigh.1

theorem toNat_lt (c : Char) : c.toNat < 0x110000 := by
  rcases c.valid with hlow | hhigh
  · exact Nat.lt_trans hlow (by decide)
  · exact hhigh.2

theorem ofUnits?_unitsOf_append (c : Char) (rest : List Nat) :
    ofUnits? (unitsOf c ++ rest) = (ofUnits? rest).map (c :: ·) := by
  have hgap := toNat_lt_surrogates_or_gt c
  have hlt := toNat_lt c
  by_cases hplane : c.toNat < 0x10000
  · have hhigh : isHighSurrogate c.toNat = false := by
      simp [isHighSurrogate]; omega
    have hlow : isLowSurrogate c.toNat = false := by
      simp [isLowSurrogate]; omega
    cases rest <;> simp [unitsOf, hplane, ofUnits?, hhigh, hlow, Char.ofNat_toNat]
  · have hhigh : isHighSurrogate (0xd800 + (c.toNat - 0x10000) / 0x400) = true := by
      simp [isHighSurrogate]; omega
    have hlow : isLowSurrogate (0xdc00 + (c.toNat - 0x10000) % 0x400) = true := by
      simp [isLowSurrogate]; omega
    have hpair : ofPair (0xd800 + (c.toNat - 0x10000) / 0x400)
        (0xdc00 + (c.toNat - 0x10000) % 0x400) = c := by
      have hvalue : 0x10000 + (0xd800 + (c.toNat - 0x10000) / 0x400 - 0xd800) * 0x400 +
          (0xdc00 + (c.toNat - 0x10000) % 0x400 - 0xdc00) = c.toNat := by omega
      rw [ofPair, hvalue, Char.ofNat_toNat]
    simp [unitsOf, hplane, ofUnits?, hhigh, hlow, hpair]

/-- Every text is read back from its code units. -/
theorem ofUnits?_toUnits (text : Text) : ofUnits? text.toUnits = some text := by
  induction text with
  | nil => rfl
  | cons c rest ih =>
      rw [toUnits, List.flatMap_cons, ofUnits?_unitsOf_append]
      rw [toUnits] at ih
      rw [ih, Option.map_some]

end AsmLens.Text
