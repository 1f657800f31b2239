import AsmLens.Text.Basic

namespace AsmLens.Text

/-- Where a needle first occurs in a text. -/
def offsetOf? (needle : Text) : Text → Option Nat
  | [] => if needle.isEmpty then some 0 else none
  | c :: rest =>
      if needle.isPrefixOf (c :: rest) then
        some 0
      else
        (offsetOf? needle rest).map (· + 1)

/-- The needle stands in the text with that many characters before it. -/
def OccursAt (needle text : Text) (offset : Nat) : Prop :=
  needle <+: text.drop offset ∧ offset ≤ text.length

theorem occursAt_of_offsetOf? {needle text : Text} {offset : Nat}
    (hfound : offsetOf? needle text = some offset) : OccursAt needle text offset := by
  induction text generalizing offset with
  | nil =>
      by_cases hempty : needle = []
      · rw [hempty] at hfound ⊢
        exact ⟨List.nil_prefix, by simp [offsetOf?] at hfound; omega⟩
      · simp [offsetOf?, hempty] at hfound
  | cons c rest ih =>
      rw [offsetOf?] at hfound
      split at hfound
      · next hstart =>
          obtain rfl : 0 = offset := Option.some.inj hfound
          exact ⟨List.isPrefixOf_iff_prefix.mp hstart, Nat.zero_le _⟩
      · obtain ⟨before, hbefore, rfl⟩ := Option.map_eq_some_iff.mp hfound
        exact ⟨(ih hbefore).1, Nat.succ_le_succ (ih hbefore).2⟩

/-- A needle that is not empty starts at one of the characters of the text. -/
theorem OccursAt.lt_length {needle text : Text} {offset : Nat} (hoccurs : OccursAt needle text offset)
    (hneedle : needle ≠ []) : offset < text.length := by
  have hlength := hoccurs.1.length_le
  have hpos := List.length_pos_iff.mpr hneedle
  rw [List.length_drop] at hlength
  omega

end AsmLens.Text
