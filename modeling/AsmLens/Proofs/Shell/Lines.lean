import AsmLens.Shell.Utility.Sorting
import Mathlib.Data.List.Sort

/-!
# Lines that are sorted, put together and compared

Sorting neither loses nor adds a line, and without keys the lines are in the order of their bytes.
Neighbours that are put together are still the lines, and of two files in columns each can be read back.
-/

namespace AsmLens.Shell

namespace KeyOrder

variable {first second third : List UInt8}

theorem compareBytes_eq_compareLex (first second : List UInt8) :
    compareBytes first second = List.compareLex compare first second := by
  induction first generalizing second with
  | nil => cases second <;> rfl
  | cons a first ih =>
      cases second with
      | nil => rfl
      | cons b second => rw [compareBytes, List.compareLex_cons_cons, ih]

theorem compareBytes_eq_iff : compareBytes first second = .eq ↔ first = second := by
  rw [compareBytes_eq_compareLex]
  exact Std.LawfulEqCmp.compare_eq_iff_eq

theorem compareBytes_swap (first second : List UInt8) :
    (compareBytes first second).swap = compareBytes second first := by
  rw [compareBytes_eq_compareLex, compareBytes_eq_compareLex]
  exact Std.OrientedCmp.eq_swap.symm

theorem compareBytes_ne_gt_trans (hfirst : compareBytes first second ≠ .gt)
    (hsecond : compareBytes second third ≠ .gt) : compareBytes first third ≠ .gt := by
  rw [compareBytes_eq_compareLex] at hfirst hsecond ⊢
  have hle := Std.TransCmp.isLE_trans (Ordering.isLE_iff_ne_gt.mpr hfirst)
    (Ordering.isLE_iff_ne_gt.mpr hsecond)
  exact Ordering.isLE_iff_ne_gt.mp hle

end KeyOrder

namespace Sorting

variable {sorting : Sorting}

theorem compareWhole_ne_gt_trans {first second third : List UInt8}
    (hfirst : sorting.compareWhole first second ≠ .gt)
    (hsecond : sorting.compareWhole second third ≠ .gt) :
    sorting.compareWhole first third ≠ .gt := by
  unfold compareWhole at *
  cases hreversed : sorting.isReversed with
  | true =>
      simp only [hreversed, if_true, KeyOrder.compareBytes_swap] at hfirst hsecond ⊢
      exact KeyOrder.compareBytes_ne_gt_trans hsecond hfirst
  | false =>
      simp only [hreversed, Bool.false_eq_true, if_false] at hfirst hsecond ⊢
      exact KeyOrder.compareBytes_ne_gt_trans hfirst hsecond

theorem compareWhole_swap (sorting : Sorting) (first second : List UInt8) :
    (sorting.compareWhole first second).swap = sorting.compareWhole second first := by
  unfold compareWhole
  dsimp only
  split
  · rw [KeyOrder.compareBytes_swap, KeyOrder.compareBytes_swap]
  · exact KeyOrder.compareBytes_swap first second

theorem unique_sublist (lines : List (List UInt8)) : (sorting.unique lines).Sublist lines := by
  induction lines with
  | nil => exact List.Sublist.refl _
  | cons line rest ih =>
      unfold unique
      dsimp only
      split
      · next next others hothers =>
          rw [hothers] at ih
          split
          · exact (List.sublist_of_cons_sublist ih).cons_cons line
          · exact ih.cons_cons line
      · exact (List.nil_sublist rest).cons_cons line

/-- Without a wish for different lines, all of them are kept. -/
theorem sorted_perm (hall : sorting.isUnique = false) (lines : List (List UInt8)) :
    (sorting.sorted lines).Perm lines := by
  unfold sorted
  simp only [hall, Bool.false_eq_true, if_false]
  exact List.mergeSort_perm lines _

/-- Without keys, no line is behind a greater one. -/
theorem pairwise_sorted (hkeys : sorting.keys = []) (lines : List (List UInt8)) :
    (sorting.sorted lines).Pairwise fun first second => sorting.compareWhole first second ≠ .gt := by
  have hsame : ∀ first second, sorting.compareLines first second = sorting.compareWhole first second := by
    intro first second
    simp [compareLines, hkeys]
  have hall : (lines.mergeSort fun first second => sorting.compareLines first second ≠ .gt).Pairwise
      fun first second => sorting.compareWhole first second ≠ .gt := by
    simp only [hsame]
    refine (List.pairwise_mergeSort ?_ ?_ lines).imp of_decide_eq_true
    · intro first second third hfirst hsecond
      exact decide_eq_true
        (compareWhole_ne_gt_trans (of_decide_eq_true hfirst) (of_decide_eq_true hsecond))
    · intro first second
      rw [← sorting.compareWhole_swap first second]
      cases sorting.compareWhole first second <;> rfl
  unfold sorted
  dsimp only
  split
  · exact hall.sublist (unique_sublist _)
  · exact hall

end Sorting

/-- Neighbours are put together, and each line is still in its place. -/
theorem Neighbours.flatten_groups (neighbours : Neighbours) (lines : List (List UInt8)) :
    (neighbours.groups lines).flatten = lines := by
  unfold groups
  induction lines with
  | nil => rfl
  | cons line lines ih =>
      rw [List.foldr_cons]
      split
      · next next others rest hgroups =>
          rw [hgroups] at ih
          split
          · simpa using ih
          · simpa using ih
      · simpa using ih

/-- What is left of rows when one of their columns is not shown. -/
def withoutColumn (hidden : Nat) (rows : List (Nat × List UInt8)) : List (List UInt8) :=
  (rows.filter fun row => row.1 ≠ hidden).map Prod.snd

theorem withoutColumn_cons_self (hidden : Nat) (line : List UInt8) (rows : List (Nat × List UInt8)) :
    withoutColumn hidden ((hidden, line) :: rows) = withoutColumn hidden rows := by
  simp [withoutColumn]

theorem withoutColumn_cons_of_ne {column hidden : Nat} (hne : column ≠ hidden) (line : List UInt8)
    (rows : List (Nat × List UInt8)) :
    withoutColumn hidden ((column, line) :: rows) = line :: withoutColumn hidden rows := by
  simp [withoutColumn, hne]

/-- Each of two files can be read off the columns: what is left without those lines that only the other
one has are its own lines. -/
theorem Invocation.withoutColumn_commLines {steps : Nat} {first second : List (List UInt8)}
    (hsteps : first.length + second.length < steps) :
    withoutColumn 2 (commLines steps first second) = first ∧
      withoutColumn 1 (commLines steps first second) = second := by
  induction steps generalizing first second with
  | zero => omega
  | succ steps ih =>
      cases first with
      | nil =>
          cases second with
          | nil => exact ⟨rfl, rfl⟩
          | cons b second =>
              obtain ⟨hfirst, hsecond⟩ := @ih [] second (by simpa using hsteps)
              rw [commLines, withoutColumn_cons_self, withoutColumn_cons_of_ne (by decide), hfirst, hsecond]
              exact ⟨rfl, rfl⟩
      | cons a first =>
          cases second with
          | nil =>
              obtain ⟨hfirst, hsecond⟩ := @ih first [] (by simpa using hsteps)
              rw [commLines, withoutColumn_cons_self, withoutColumn_cons_of_ne (by decide), hfirst, hsecond]
              exact ⟨rfl, rfl⟩
          | cons b second =>
              simp only [List.length_cons] at hsteps
              rw [commLines]
              cases hcompare : KeyOrder.compareBytes a b with
              | lt =>
                  obtain ⟨hfirst, hsecond⟩ :=
                    @ih first (b :: second) (by simp only [List.length_cons]; omega)
                  dsimp only
                  rw [withoutColumn_cons_self, withoutColumn_cons_of_ne (by decide), hfirst, hsecond]
                  exact ⟨rfl, rfl⟩
              | gt =>
                  obtain ⟨hfirst, hsecond⟩ :=
                    @ih (a :: first) second (by simp only [List.length_cons]; omega)
                  dsimp only
                  rw [withoutColumn_cons_self, withoutColumn_cons_of_ne (by decide), hfirst, hsecond]
                  exact ⟨rfl, rfl⟩
              | eq =>
                  obtain rfl := KeyOrder.compareBytes_eq_iff.mp hcompare
                  obtain ⟨hfirst, hsecond⟩ := @ih first second (by omega)
                  dsimp only
                  rw [withoutColumn_cons_of_ne (by decide), withoutColumn_cons_of_ne (by decide), hfirst,
                    hsecond]
                  exact ⟨rfl, rfl⟩

end AsmLens.Shell
