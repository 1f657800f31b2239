import AsmLens.FileTree.Resolve
import AsmLens.Proofs.PathText

/-!
# The paths of links

A resolution names every link by a path that leads through no other link. Such a path leads up first and
down from there on. A link is found at its path if that is short enough to be looked up.
-/

namespace AsmLens

namespace Path

/-- A path that leads up some steps, none from a root, and then down. -/
structure Direct (path : Path) (ups : Nat) (downs : List Text) : Prop where
  root : path.root ≠ .double
  names : path.names = List.replicate ups (".." : Text) ++ downs
  proper : ∀ name ∈ downs, name ≠ [] ∧ name ≠ ".."
  single : path.root = .single → ups = 0

variable {path : Path} {ups : Nat} {downs : List Text}

/-- A path that leads through no link when it is followed. -/
def IsDirect (path : Path) : Prop :=
  ∃ ups downs, path.Direct ups downs

theorem isDirect_of_root {root : Root} (hroot : root ≠ .double) : IsDirect ⟨root, []⟩ :=
  ⟨0, [], hroot, rfl, by simp, fun _ => rfl⟩

theorem IsDirect.down (hdirect : path.IsDirect) {name : Text} (hempty : name ≠ [])
    (hdots : name ≠ "..") : (path.down name).IsDirect := by
  obtain ⟨ups, downs, hpath⟩ := hdirect
  refine ⟨ups, downs ++ [name], hpath.root, ?_, ?_, hpath.single⟩
  · rw [Path.down, hpath.names, List.append_assoc]
  · intro piece hpiece
    rcases List.mem_append.mp hpiece with hdowns | hname
    · exact hpath.proper piece hdowns
    · obtain rfl := List.mem_singleton.mp hname
      exact ⟨hempty, hdots⟩

theorem Direct.all_iff (hpath : path.Direct ups downs) :
    path.names.all (· = "..") = true ↔ downs = [] := by
  rw [hpath.names, List.all_append, List.all_replicate]
  constructor
  · intro hall
    rw [Bool.and_eq_true] at hall
    rw [List.eq_nil_iff_forall_not_mem]
    intro name hname
    exact (hpath.proper name hname).2 (by simpa using List.all_eq_true.mp hall.2 name hname)
  · rintro rfl
    simp

theorem IsDirect.up (hdirect : path.IsDirect) : path.up.IsDirect := by
  obtain ⟨ups, downs, hpath⟩ := hdirect
  unfold Path.up
  split
  · next hup =>
      have hdowns := hpath.all_iff.mp hup.2
      refine ⟨ups + 1, [], hpath.root, ?_, by simp, ?_⟩
      · rw [Path.down, hpath.names, hdowns, List.append_nil, List.append_nil, List.replicate_succ']
      · change path.root = .single → _
        rw [hup.1]
        simp
  · next hdown =>
      cases hroot : path.root with
      | double => exact absurd hroot hpath.root
      | single =>
          have hnone := hpath.single hroot
          refine ⟨0, downs.dropLast, by simp, ?_, ?_, fun _ => rfl⟩
          · simp [hpath.names, hnone]
          · exact fun name hname => hpath.proper name (List.dropLast_subset _ hname)
      | relative =>
          have hne : downs ≠ [] := fun hdowns => hdown ⟨hroot, hpath.all_iff.mpr hdowns⟩
          refine ⟨ups, downs.dropLast, by simp, ?_, ?_, by simp⟩
          · simp only
            rw [hpath.names, List.dropLast_append_of_ne_nil hne]
          · exact fun name hname => hpath.proper name (List.dropLast_subset _ hname)

end Path

namespace FileTree

variable {tree : FileTree} {path : Path}

theorem isDirect_start (hpath : path.IsDirect) (target : Text) : (start path target).IsDirect := by
  unfold start
  split
  · exact Path.isDirect_of_root (by simp)
  · exact hpath

theorem get?_of_target? {target : Text} (htarget : tree.target? path = some target) :
    path.toText.byteLength ≤ pathLimit ∧ tree.get? (tree.locationOf path) = some (.link target) := by
  rw [target?] at htarget
  split at htarget
  · contradiction
  · next hlength =>
      split at htarget
      · next hentry =>
          obtain rfl := Option.some.inj htarget
          exact ⟨Nat.not_lt.mp hlength, hentry⟩
      · contradiction

theorem target?_of_get? {target : Text} (hshort : path.toText.byteLength ≤ pathLimit)
    (hentry : tree.get? (tree.locationOf path) = some (.link target)) :
    tree.target? path = some target := by
  rw [target?, if_neg (Nat.not_lt.mpr hshort), hentry]

theorem target?_eq_none
    (hentry : ∀ target, tree.get? (tree.locationOf path) ≠ some (.link target)) :
    tree.target? path = none := by
  cases htarget : tree.target? path with
  | none => rfl
  | some target => exact absurd (get?_of_target? htarget).2 (hentry target)

end FileTree

end AsmLens
