import AsmLens.Shell.Pattern
import Mathlib.Data.List.Infix

/-!
# What a pattern covers

A pattern covers a text that its parts cover one after the other. What is cut off a text is covered, and
no covered text there is shorter, or none is longer where as much as possible is to be cut.
-/

namespace AsmLens.Shell.Pattern

/-- The texts that the parts of a pattern cover, one after the other. -/
inductive Covers : Pattern → Text → Prop
  | nil : Covers [] []
  | anything {parts : Pattern} {rest : Text} (front : Text) (hrest : Covers parts rest) :
      Covers (.anything :: parts) (front ++ rest)
  | one {part : PatternPart} {parts : Pattern} {c : Char} {rest : Text}
      (hpart : part.accepts c = true) (hrest : Covers parts rest) :
      Covers (part :: parts) (c :: rest)

variable {pattern parts : Pattern} {part : PatternPart} {text rest front : Text}

theorem mem_suffixes_iff : rest ∈ suffixes text ↔ rest <:+ text := by
  induction text with
  | nil => simp [suffixes]
  | cons c text ih => rw [suffixes, List.mem_cons, ih, List.suffix_cons_iff]

theorem covers_anything : covers (.anything :: parts) text = true ↔
    ∃ front rest, front ++ rest = text ∧ parts.covers rest = true := by
  rw [covers, List.any_eq_true]
  constructor
  · rintro ⟨rest, hmem, hrest⟩
    obtain ⟨front, hfront⟩ := mem_suffixes_iff.mp hmem
    exact ⟨front, rest, hfront, hrest⟩
  · rintro ⟨front, rest, rfl, hrest⟩
    exact ⟨rest, mem_suffixes_iff.mpr (List.suffix_append front rest), hrest⟩

theorem covers_cons (hpart : part ≠ .anything) : covers (part :: parts) text = true ↔
    ∃ c rest, c :: rest = text ∧ part.accepts c = true ∧ parts.covers rest = true := by
  cases part with
  | anything => exact absurd rfl hpart
  | exactly wanted => cases text <;> simp [covers]
  | oneOf isNegated ranges => cases text <;> simp [covers]

theorem covers_iff : pattern.covers text = true ↔ pattern.Covers text := by
  induction pattern generalizing text with
  | nil =>
      constructor
      · intro hcovers
        obtain rfl : text = [] := by simpa [covers] using hcovers
        exact .nil
      · rintro ⟨⟩
        rfl
  | cons part parts ih =>
      constructor
      · intro hcovers
        by_cases hpart : part = .anything
        · subst hpart
          obtain ⟨front, rest, rfl, hrest⟩ := covers_anything.mp hcovers
          exact .anything front (ih.mp hrest)
        · obtain ⟨c, rest, rfl, hc, hrest⟩ := (covers_cons hpart).mp hcovers
          exact .one hc (ih.mp hrest)
      · intro hcovers
        cases hcovers with
        | @anything _ rest front hrest =>
            exact covers_anything.mpr ⟨front, rest, rfl, ih.mpr hrest⟩
        | @one _ _ c rest hc hrest =>
            have hpart : part ≠ .anything := by
              rintro rfl
              cases hc
            exact (covers_cons hpart).mpr ⟨c, rest, rfl, hc, ih.mpr hrest⟩

/-! ### Cutting -/

theorem pairwise_suffixes (text : Text) :
    (suffixes text).Pairwise fun first second => second.length < first.length := by
  induction text with
  | nil => simp [suffixes]
  | cons c text ih =>
      rw [suffixes, List.pairwise_cons]
      refine ⟨fun rest hrest => ?_, ih⟩
      have hle := (mem_suffixes_iff.mp hrest).length_le
      rw [List.length_cons]
      omega

/-- The shortest or the longest of the ends of a text that a test holds of. -/
structure Chosen (isWanted : Text → Bool) (isShortest : Bool) (text rest : Text) : Prop where
  suffix : rest <:+ text
  wanted : isWanted rest = true
  extreme : ∀ other, other <:+ text → isWanted other = true →
    if isShortest then rest.length ≤ other.length else other.length ≤ rest.length

theorem chosen_of_head? {isWanted : Text → Bool}
    (hhead : ((suffixes text).filter isWanted).head? = some rest) :
    Chosen isWanted false text rest := by
  obtain ⟨others, hends⟩ := List.head?_eq_some_iff.mp hhead
  have hpairwise := (pairwise_suffixes text).filter isWanted
  have hmem : rest ∈ (suffixes text).filter isWanted := List.mem_of_head? hhead
  rw [List.mem_filter, mem_suffixes_iff] at hmem
  refine ⟨hmem.1, hmem.2, fun other hsuffix hother => ?_⟩
  have hwanted := List.mem_filter.mpr ⟨mem_suffixes_iff.mpr hsuffix, hother⟩
  rw [hends] at hpairwise hwanted
  rcases List.mem_cons.mp hwanted with rfl | hbehind
  · exact Nat.le_refl _
  · exact ((List.pairwise_cons.mp hpairwise).1 other hbehind).le

theorem chosen_of_getLast? {isWanted : Text → Bool}
    (hlast : ((suffixes text).filter isWanted).getLast? = some rest) :
    Chosen isWanted true text rest := by
  obtain ⟨others, hends⟩ := List.getLast?_eq_some_iff.mp hlast
  have hpairwise := (pairwise_suffixes text).filter isWanted
  have hmem : rest ∈ (suffixes text).filter isWanted := List.mem_of_getLast? hlast
  rw [List.mem_filter, mem_suffixes_iff] at hmem
  refine ⟨hmem.1, hmem.2, fun other hsuffix hother => ?_⟩
  have hwanted := List.mem_filter.mpr ⟨mem_suffixes_iff.mpr hsuffix, hother⟩
  rw [hends] at hpairwise hwanted
  rcases List.mem_append.mp hwanted with hbefore | hsame
  · have hlt := (List.pairwise_append.mp hpairwise).2.2 other hbefore rest List.mem_cons_self
    exact hlt.le
  · obtain rfl := List.mem_singleton.mp hsame
    exact Nat.le_refl _

theorem exists_chosen {isWanted : Text → Bool} (hends : (suffixes text).filter isWanted ≠ [])
    (isShortest : Bool) :
    ∃ rest, (if isShortest then ((suffixes text).filter isWanted).getLast?
        else ((suffixes text).filter isWanted).head?) = some rest ∧
      Chosen isWanted isShortest text rest := by
  cases isShortest with
  | true =>
      have hlast := List.getLast?_eq_some_getLast hends
      exact ⟨_, hlast, chosen_of_getLast? hlast⟩
  | false =>
      have hhead := List.head?_eq_some_head hends
      exact ⟨_, hhead, chosen_of_head? hhead⟩

theorem eq_false_of_filter_eq_nil {isWanted : Text → Bool}
    (hnone : (suffixes text).filter isWanted = []) (hsuffix : rest <:+ text) :
    isWanted rest = false := by
  rw [List.filter_eq_nil_iff] at hnone
  exact Bool.eq_false_iff.mpr (hnone rest (mem_suffixes_iff.mpr hsuffix))

/-- What is cut off at the start of a text is covered, and it is the shortest or the longest covered part
there; if there is none, the text stays as it is. -/
theorem cutStart_cases (pattern : Pattern) (longest : Bool) (text : Text) :
    (∃ front, front ++ pattern.cutStart longest text = text ∧ pattern.Covers front ∧
      ∀ other, other <+: text → pattern.Covers other →
        if longest then other.length ≤ front.length else front.length ≤ other.length) ∨
    (pattern.cutStart longest text = text ∧ ∀ other, other <+: text → ¬ pattern.Covers other) := by
  have hwanted : ∀ front rest, front ++ rest = text →
      (pattern.covers (text.take (text.length - rest.length)) = true ↔ pattern.Covers front) := by
    rintro front rest rfl
    rw [covers_iff]
    simp
  unfold cutStart
  by_cases hends : ((suffixes text).filter fun rest =>
      pattern.covers (text.take (text.length - rest.length))) = []
  · refine .inr ⟨by simp [hends], ?_⟩
    rintro other ⟨rest, hother⟩ hcovers
    have hfalse := eq_false_of_filter_eq_nil hends ⟨other, hother⟩
    rw [(hwanted other rest hother).mpr hcovers] at hfalse
    cases hfalse
  · obtain ⟨rest, hrest, hchosen⟩ := exists_chosen hends longest
    obtain ⟨front, hfront⟩ := hchosen.suffix
    refine .inl ⟨front, ?_, (hwanted front rest hfront).mp hchosen.wanted, ?_⟩
    · simp only [hrest, Option.getD_some, hfront]
    · rintro other ⟨left, hother⟩ hcovers
      have hextreme := hchosen.extreme left ⟨other, hother⟩ ((hwanted other left hother).mpr hcovers)
      have hlength : front.length + rest.length = other.length + left.length := by
        rw [← List.length_append, ← List.length_append, hfront, hother]
      cases longest with
      | true =>
          simp only [if_true] at hextreme ⊢
          omega
      | false =>
          simp only [Bool.false_eq_true, if_false] at hextreme ⊢
          omega

/-- So it is at the end of a text. -/
theorem cutEnd_cases (pattern : Pattern) (longest : Bool) (text : Text) :
    (∃ rest, pattern.cutEnd longest text ++ rest = text ∧ pattern.Covers rest ∧
      ∀ other, other <:+ text → pattern.Covers other →
        if longest then other.length ≤ rest.length else rest.length ≤ other.length) ∨
    (pattern.cutEnd longest text = text ∧ ∀ other, other <:+ text → ¬ pattern.Covers other) := by
  unfold cutEnd
  by_cases hends : (suffixes text).filter pattern.covers = []
  · refine .inr ⟨by simp [hends], ?_⟩
    intro other hother hcovers
    have hfalse := eq_false_of_filter_eq_nil hends hother
    rw [covers_iff.mpr hcovers] at hfalse
    cases hfalse
  · obtain ⟨rest, hrest, hchosen⟩ := exists_chosen hends (!longest)
    obtain ⟨front, hfront⟩ := hchosen.suffix
    refine .inl ⟨rest, ?_, covers_iff.mp hchosen.wanted, ?_⟩
    · have htake : text.take (text.length - rest.length) ++ rest = text := by
        rw [← hfront]
        simp
      cases longest with
      | true =>
          simp only [Bool.not_true, Bool.false_eq_true, if_false] at hrest
          simp only [if_true, hrest, htake]
      | false =>
          simp only [Bool.not_false, if_true] at hrest
          simp only [Bool.false_eq_true, if_false, hrest, htake]
    · intro other hother hcovers
      have hextreme := hchosen.extreme other hother (covers_iff.mpr hcovers)
      cases longest <;> exact hextreme

end AsmLens.Shell.Pattern
