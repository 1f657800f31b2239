import AsmLens.Shell.Regex.Match
import Mathlib.Data.List.Basic

/-!
# What a regular expression finds

The places that an expression comes to are those that its parts lead to. What is found in a text is a part
of it, with nothing found before.
-/

namespace AsmLens.Shell

namespace Place

variable {looksBack : Bool} {first second : List Place} {place : Place}

theorem mem_of_mem_distinct {last : Option Place} {places : List Place}
    (hmem : place ∈ distinct looksBack last places) : place ∈ places := by
  induction places generalizing last with
  | nil => simp [distinct] at hmem
  | cons other rest ih =>
      rw [distinct] at hmem
      split at hmem
      · exact List.mem_cons_of_mem other (ih hmem)
      · rcases List.mem_cons.mp hmem with rfl | hlater
        · exact List.mem_cons_self
        · exact List.mem_cons_of_mem other (ih hlater)

theorem mem_or_mem_of_mem_merge (hmem : place ∈ merge looksBack first second) :
    place ∈ first ∨ place ∈ second :=
  List.mem_merge.mp (mem_of_mem_distinct hmem)

theorem exists_mem_of_mem_foldr_merge {lists : List (List Place)}
    (hmem : place ∈ lists.foldr (merge looksBack) []) : ∃ places ∈ lists, place ∈ places := by
  induction lists with
  | nil => simp at hmem
  | cons places lists ih =>
      rcases mem_or_mem_of_mem_merge hmem with hfirst | hlater
      · exact ⟨places, List.mem_cons_self, hfirst⟩
      · obtain ⟨others, hothers, hplace⟩ := ih hlater
        exact ⟨others, List.mem_cons_of_mem places hothers, hplace⟩

end Place

namespace Regex

variable (matching : Matching)

/-- So many steps one after the other. -/
inductive Steps (step : Place → Place → Prop) : Nat → Place → Place → Prop
  | none {place : Place} : Steps step 0 place place
  | more {count : Nat} {place middle after : Place} (hsteps : Steps step count place middle)
      (hstep : step middle after) : Steps step (count + 1) place after

/-- A number of times that is allowed. -/
def Allowed (least : Nat) (most : Option Nat) (count : Nat) : Prop :=
  least ≤ count ∧ ∀ bound, most = some bound → count ≤ bound

/-- The places that the parts of an expression lead to. -/
def Leads : Regex → Place → Place → Prop
  | .empty, place, after => after = place
  | .oneOf set, place, after =>
      ∃ c, place.rest.head? = some c ∧ matching.takes set c = true ∧ after = place.advance 1
  | .boundary edge, place, after => place.isAt matching edge = true ∧ after = place
  | .again number, place, after =>
      ∃ text, place.group? number = some text ∧ matching.repeats text place.rest = true ∧
        after = place.advance text.length
  | .group number body, place, after =>
      ∃ inside, Leads body place inside ∧ after = place.closeGroup number inside
  | .both first second, place, after => ∃ middle, Leads first place middle ∧ Leads second middle after
  | .either first second, place, after => Leads first place after ∨ Leads second place after
  | .repeated body least most, place, after =>
      ∃ count, Allowed least most count ∧ Steps (Leads body) count place after

variable {matching} {looksBack : Bool} {place after : Place}

theorem mem_next (looksBack : Bool) {step : Place → List Place} {relation : Place → Place → Prop}
    (hstep : ∀ {place after}, after ∈ step place → relation place after) {start : Place}
    {done : Nat} {places : List Place}
    (hplaces : ∀ place ∈ places, Steps relation done start place) :
    ∀ after ∈ (places.map step).foldr (Place.merge looksBack) [],
      Steps relation (done + 1) start after := by
  intro after hmem
  obtain ⟨afters, hafters, hafter⟩ := Place.exists_mem_of_mem_foldr_merge hmem
  obtain ⟨place, hplace, rfl⟩ := List.mem_map.mp hafters
  exact (hplaces place hplace).more (hstep hafter)

/-- With so many steps done to the places, and an allowed number to what has been found. -/
theorem steps_of_mem_repeatStep {step : Place → List Place} {relation : Place → Place → Prop}
    (hstep : ∀ {place after}, after ∈ step place → relation place after) {start : Place}
    {rounds least done low : Nat} {most high : Option Nat} {places found : List Place}
    (hlow : low ≤ done + least) (hhigh : high = most.map (done + ·))
    (hplaces : ∀ place ∈ places, Steps relation done start place)
    (hfound : ∀ place ∈ found, ∃ count, Allowed low high count ∧ Steps relation count start place)
    (hmem : after ∈ repeatStep looksBack step rounds least most places found) :
    ∃ count, Allowed low high count ∧ Steps relation count start after := by
  induction rounds generalizing least done most places found with
  | zero =>
      rw [repeatStep] at hmem
      exact hfound after hmem
  | succ rounds ih =>
      cases places with
      | nil =>
          rw [repeatStep] at hmem
          · exact hfound after hmem
          · simp
      | cons place rest =>
          unfold repeatStep at hmem
          split at hmem
          · exact hfound after hmem
          · next hmost =>
              have hnext := mem_next looksBack hstep hplaces
              have hbound : high = (most.map (· - 1)).map (done + 1 + ·) := by
                cases most with
                | none => exact hhigh
                | some bound =>
                    have hne : bound ≠ 0 := fun hzero => hmost (congrArg some hzero)
                    rw [hhigh]
                    simp only [Option.map_some, Option.some.injEq]
                    omega
              have hallowed : low ≤ done + 1 → Allowed low high (done + 1) := by
                intro hle
                refine ⟨hle, fun limit hlimit => ?_⟩
                rw [hbound] at hlimit
                cases most with
                | none => cases hlimit
                | some bound =>
                    simp only [Option.map_some, Option.some.injEq] at hlimit
                    omega
              dsimp only at hmem
              split at hmem
              · next least =>
                  refine ih (by omega) hbound hnext (fun place hplace => ?_) hmem
                  split at hplace
                  · next hlast => exact ⟨done + 1, hallowed (by omega), hnext place hplace⟩
                  · exact hfound place hplace
              · refine ih (by omega) hbound (fun place hplace => ?_) (fun place hplace => ?_) hmem
                · exact hnext place (List.mem_of_mem_filter hplace)
                · rcases Place.mem_or_mem_of_mem_merge hplace with hnew | hbefore
                  · exact ⟨done + 1, hallowed (by omega), hnext place (List.mem_of_mem_filter hnew)⟩
                  · exact hfound place hbefore

/-- An expression comes only to places that its parts lead to. -/
theorem leads_of_mem_ends {regex : Regex} (hmem : after ∈ regex.ends matching looksBack place) :
    regex.Leads matching place after := by
  induction regex generalizing place after with
  | empty => exact List.mem_singleton.mp hmem
  | oneOf set =>
      rw [ends] at hmem
      split at hmem
      · next c rest hrest =>
          split at hmem
          · next htakes => exact ⟨c, by rw [hrest]; rfl, htakes, List.mem_singleton.mp hmem⟩
          · cases hmem
      · cases hmem
  | boundary edge =>
      rw [ends] at hmem
      split at hmem
      · next hedge => exact ⟨hedge, List.mem_singleton.mp hmem⟩
      · cases hmem
  | again number =>
      rw [ends] at hmem
      split at hmem
      · cases hmem
      · next text hgroup =>
          split at hmem
          · next hrepeats => exact ⟨text, hgroup, hrepeats, List.mem_singleton.mp hmem⟩
          · cases hmem
  | group number body ih =>
      rw [ends] at hmem
      obtain ⟨inside, hinside, rfl⟩ := List.mem_map.mp hmem
      exact ⟨inside, ih hinside, rfl⟩
  | both first second ihFirst ihSecond =>
      rw [ends] at hmem
      obtain ⟨afters, hafters, hafter⟩ := Place.exists_mem_of_mem_foldr_merge hmem
      obtain ⟨middle, hmiddle, rfl⟩ := List.mem_map.mp hafters
      exact ⟨middle, ihFirst hmiddle, ihSecond hafter⟩
  | either first second ihFirst ihSecond =>
      rw [ends] at hmem
      exact (Place.mem_or_mem_of_mem_merge hmem).imp ihFirst ihSecond
  | repeated body least most ih =>
      rw [ends] at hmem
      have hlow : least ≤ 0 + least := by omega
      have hhigh : most = most.map (0 + ·) := by cases most <;> simp
      refine steps_of_mem_repeatStep ih hlow hhigh ?_ ?_ hmem
      · intro place hplace
        obtain rfl := List.mem_singleton.mp hplace
        exact .none
      · intro place hplace
        split at hplace
        · next hzero =>
            obtain rfl := List.mem_singleton.mp hplace
            exact ⟨0, ⟨by omega, by simp⟩, .none⟩
        · cases hplace

/-! ### Parts of a text -/

/-- One place is behind another: the characters between them have been passed. -/
structure Passes (place after : Place) : Prop where
  le : place.passed ≤ after.passed
  rest : after.rest = place.rest.drop (after.passed - place.passed)
  length : after.passed + after.rest.length = place.passed + place.rest.length

theorem Passes.refl (place : Place) : Passes place place :=
  ⟨Nat.le_refl _, by simp, rfl⟩

theorem Passes.trans {middle : Place} (hfirst : Passes place middle) (hsecond : Passes middle after) :
    Passes place after := by
  have hle := Nat.le_trans hfirst.le hsecond.le
  refine ⟨hle, ?_, hsecond.length.trans hfirst.length⟩
  rw [hsecond.rest, hfirst.rest, List.drop_drop]
  congr 1
  have := hfirst.le
  have := hsecond.le
  omega

theorem passes_advance {count : Nat} (hcount : count ≤ place.rest.length) :
    Passes place (place.advance count) := by
  unfold Place.advance
  split
  · exact .refl place
  · refine ⟨by simp, by simp, ?_⟩
    simp only [List.length_drop]
    omega

theorem Steps.passes {relation : Place → Place → Prop}
    (hrelation : ∀ {place after}, relation place after → Passes place after) {count : Nat}
    (hsteps : Steps relation count place after) : Passes place after := by
  induction hsteps with
  | none => exact .refl _
  | more _ hstep ih => exact ih.trans (hrelation hstep)

theorem Leads.passes {regex : Regex} (hleads : regex.Leads matching place after) :
    Passes place after := by
  induction regex generalizing place after with
  | empty =>
      obtain rfl : after = place := hleads
      exact .refl after
  | oneOf set =>
      obtain ⟨c, hrest, -, rfl⟩ := hleads
      obtain ⟨rest, hrest⟩ := List.head?_eq_some_iff.mp hrest
      exact passes_advance (by simp [hrest])
  | boundary edge =>
      obtain ⟨-, rfl⟩ := hleads
      exact .refl after
  | again number =>
      obtain ⟨text, -, hrepeats, rfl⟩ := hleads
      have hlength := (List.isPrefixOf_iff_prefix.mp hrepeats).length_le
      refine passes_advance ?_
      cases hcase : matching.ignoresCase <;> simpa [hcase] using hlength
  | group number body ih =>
      obtain ⟨inside, hinside, rfl⟩ := hleads
      exact ⟨(ih hinside).le, (ih hinside).rest, (ih hinside).length⟩
  | both first second ihFirst ihSecond =>
      obtain ⟨middle, hmiddle, hafter⟩ := hleads
      exact (ihFirst hmiddle).trans (ihSecond hafter)
  | either first second ihFirst ihSecond =>
      rcases hleads with hfirst | hsecond
      · exact ihFirst hfirst
      · exact ihSecond hsecond
  | repeated body least most ih =>
      obtain ⟨count, -, hsteps⟩ := hleads
      exact hsteps.passes ih

/-- What is found at the start of a text is a part that the expression leads over. -/
theorem matchHere?_eq_some {regex : Regex} {before : Option Char} {text : Text} {found : Found}
    (hfound : regex.matchHere? matching before text = some found) :
    found.skipped = [] ∧ found.matched ++ found.rest = text ∧
      ∃ after, regex.Leads matching { before, rest := text } after ∧
        after.passed = found.matched.length ∧ after.groups = found.groups := by
  obtain ⟨after, hhead, rfl⟩ := Option.map_eq_some_iff.mp hfound
  have hleads := leads_of_mem_ends (List.mem_of_head? hhead)
  have hpasses := hleads.passes
  have hrest : after.rest = text.drop after.passed := by simpa using hpasses.rest
  have hlength : after.passed + after.rest.length = text.length := by simpa using hpasses.length
  refine ⟨rfl, ?_, after, hleads, ?_, rfl⟩
  · simp only [hrest, List.take_append_drop]
  · rw [List.length_take]
    omega

/-- What is found in a text is the first part that an expression leads over: what is skipped, what is
matched and the rest make up the text, and nothing is found where less is skipped. -/
theorem find?_eq_some {regex : Regex} {before : Option Char} {text : Text} {found : Found}
    (hfound : regex.find? matching before text = some found) :
    found.skipped ++ found.matched ++ found.rest = text ∧
      (∃ after, regex.Leads matching
          { before := found.skipped.getLast?.or before, rest := found.matched ++ found.rest } after ∧
        after.passed = found.matched.length ∧ after.groups = found.groups) ∧
      ∀ front rest, front ++ rest = text → front.length < found.skipped.length →
        regex.matchHere? matching (front.getLast?.or before) rest = none := by
  induction text generalizing before found with
  | nil =>
      rw [find?] at hfound
      obtain ⟨hskipped, htext, hleads⟩ := matchHere?_eq_some hfound
      rw [hskipped, List.nil_append, htext]
      exact ⟨rfl, hleads, by simp⟩
  | cons c text ih =>
      have hlast : ∀ front : Text, (c :: front).getLast?.or before = front.getLast?.or (some c) := by
        intro front
        simp [List.getLast?_cons]
      rw [find?] at hfound
      split at hfound
      · next here hhere =>
          obtain rfl := Option.some.inj hfound
          obtain ⟨hskipped, htext, hleads⟩ := matchHere?_eq_some hhere
          rw [hskipped, List.nil_append, htext]
          exact ⟨rfl, hleads, by simp⟩
      · next hnone =>
          obtain ⟨later, hlater, rfl⟩ := Option.map_eq_some_iff.mp hfound
          obtain ⟨htext, hleads, hbefore⟩ := ih hlater
          refine ⟨by rw [← htext]; rfl, ?_, ?_⟩
          · rw [hlast]
            exact hleads
          · intro front rest hsplit hlength
            cases front with
            | nil =>
                obtain rfl : rest = c :: text := hsplit
                exact hnone
            | cons d front =>
                obtain ⟨rfl, hbehind⟩ := List.cons.inj hsplit
                rw [hlast]
                exact hbefore front rest hbehind (Nat.lt_of_succ_lt_succ hlength)

end Regex

end AsmLens.Shell
