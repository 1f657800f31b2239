import AsmLens.Proofs.FileTree.Making
import Mathlib.Logic.Function.Iterate

/-!
# Directories that are nested too deep

A directory above an absent one is made inside the call for the one below it. Where more directories are
absent than there is room for, this fails before anything has been made; with room for them, it makes no
difference how much room there is.
-/

namespace AsmLens

theorem Path.parent_names_ne_nil_iff {path : Path} :
    path.parent.names ≠ [] ↔ 1 < path.names.length := by
  rw [← List.length_pos_iff, parent, List.length_dropLast, Nat.sub_pos_iff_lt]

namespace FileTree

/-- A path whose parent is absent, so that nothing can be made there. -/
structure LacksParent (tree : FileTree) (path : Path) : Prop where
  names : path.names ≠ []
  nul : '\x00' ∉ path.toText
  absent : tree.slot? path.toText = .error .noEntry

/-- A path and the ones above it lack their parents, one more of them than there is room for. -/
def TooDeep (tree : FileTree) (room : Nat) (path : Path) : Prop :=
  ∀ count ≤ room, tree.LacksParent (Path.parent^[count] path)

variable {tree : FileTree} {room : Nat} {path : Path}

theorem makeDirectory_eq_noEntry_iff {path : Text} :
    tree.makeDirectory path = .error .noEntry ↔ tree.slot? path = .error .noEntry := by
  rw [makeDirectory]
  cases hslot : tree.slot? path with
  | error errno => simp [bind, Except.bind]
  | ok slot =>
      cases slot with
      | none => simp [bind, Except.bind]
      | some location => cases hentry : tree.get? location <;> simp [bind, Except.bind, hentry]

theorem tooDeep_zero_iff : tree.TooDeep 0 path ↔ tree.LacksParent path := by
  simp [TooDeep]

theorem tooDeep_succ_iff :
    tree.TooDeep (room + 1) path ↔ tree.LacksParent path ∧ tree.TooDeep room path.parent := by
  constructor
  · intro hdeep
    exact ⟨hdeep 0 (Nat.zero_le _), fun count hcount => hdeep (count + 1) (Nat.succ_le_succ hcount)⟩
  · rintro ⟨hlacks, hdeep⟩ count hcount
    cases count with
    | zero => exact hlacks
    | succ count => exact hdeep count (Nat.le_of_succ_le_succ hcount)

theorem TooDeep.lacksParent (hdeep : tree.TooDeep room path) : tree.LacksParent path :=
  hdeep 0 (Nat.zero_le room)

theorem TooDeep.lt_length (hdeep : tree.TooDeep room path) : room < path.names.length := by
  induction room generalizing path with
  | zero => exact List.length_pos_iff.mpr hdeep.lacksParent.names
  | succ room ih =>
      have habove := ih (tooDeep_succ_iff.mp hdeep).2
      rw [Path.parent, List.length_dropLast] at habove
      omega

/-! ### Paths below an absent name -/

/-- A path whose first name is absent where the path starts, and which is not too long to be looked up. -/
structure BeginsAbsent (tree : FileTree) (path : Path) (name : Text) : Prop where
  normal : path.Normal
  nul : '\x00' ∉ path.toText
  short : path.toText.byteLength ≤ pathLimit
  first : path.names.head? = some name
  entryName : IsEntryName name
  start : tree.get? (origin tree.workingDirectory path.toText) = some .directory
  absent : tree.get? (name :: origin tree.workingDirectory path.toText) = none

variable {name : Text}

theorem BeginsAbsent.parent (hbegins : tree.BeginsAbsent path name) (hparent : path.parent.names ≠ []) :
    tree.BeginsAbsent path.parent name := by
  have htext := Path.toText_eq_parent_append hparent
  obtain ⟨hnormal, hnul, hshort, hfirst, hname, hstart, habsent⟩ := hbegins
  refine ⟨hnormal.parent, fun hmem => hnul ?_, ?_, ?_, hname, ?_, ?_⟩
  · rw [htext]
    exact List.mem_append_left _ hmem
  · rw [htext, Text.byteLength, Text.encode_append, List.length_append] at hshort
    exact Nat.le_of_add_right_le hshort
  · rwa [Path.parent, List.head?_dropLast, if_pos (Path.parent_names_ne_nil_iff.mp hparent)]
  · rwa [hnormal.origin_parent]
  · rwa [hnormal.origin_parent]

end FileTree

theorem Path.parent_reverse_cons (root : Root) (name : Text) (above : List Text) :
    (⟨root, (name :: above).reverse⟩ : Path).parent = ⟨root, above.reverse⟩ := by
  simp [parent]

namespace TreeAction

variable {path : Path} {tree made changed : FileTree} {room : Nat} {failure : Failure}
  {whenAbsent instead : TreeAction Unit}

theorem makeDirectoryOr_of_lacksParent (hlacks : tree.LacksParent path) :
    makeDirectoryOr path whenAbsent tree = whenAbsent tree := by
  rw [makeDirectoryOr_apply, if_neg (by simpa using hlacks.nul),
    FileTree.makeDirectory_eq_noEntry_iff.mpr hlacks.absent]

/-- What is to be done where the parent is absent matters nowhere else. -/
theorem makeDirectoryOr_congr (hnames : path.names ≠ []) (hlacks : ¬ tree.LacksParent path) :
    makeDirectoryOr path whenAbsent tree = makeDirectoryOr path instead tree := by
  rw [makeDirectoryOr_apply, makeDirectoryOr_apply]
  split
  · rfl
  · next hnul =>
      split
      · rfl
      · next habsent =>
          exact absurd ⟨hnames, by simpa using hnul,
            FileTree.makeDirectory_eq_noEntry_iff.mp habsent⟩ hlacks
      · rfl

theorem makeDirectoriesOf_of_tooDeep {root : Root} {names : List Text}
    (hdeep : tree.TooDeep room ⟨root, names.reverse⟩) :
    makeDirectoriesOf root room names tree = (.error (.nestedTooDeep .directories), tree) := by
  induction names generalizing room with
  | nil => exact absurd rfl hdeep.lacksParent.names
  | cons name above ih =>
      cases room with
      | zero => exact makeDirectoryOr_of_lacksParent hdeep.lacksParent
      | succ room =>
          obtain ⟨hlacks, habove⟩ := FileTree.tooDeep_succ_iff.mp hdeep
          rw [Path.parent_reverse_cons] at habove
          exact (makeDirectoryOr_of_lacksParent hlacks).trans (Step.bind_of_error (ih habove))

/-- Where there is room enough, there might as well be room for all. -/
theorem makeDirectoriesOf_of_not_tooDeep {root : Root} {names : List Text}
    (hroom : ¬ tree.TooDeep room ⟨root, names.reverse⟩) :
    makeDirectoriesOf root room names tree = makeDirectoriesOf root names.length names tree := by
  induction names generalizing room with
  | nil => rfl
  | cons name above ih =>
      by_cases hlacks : tree.LacksParent ⟨root, (name :: above).reverse⟩
      · cases room with
        | zero => exact absurd (FileTree.tooDeep_zero_iff.mpr hlacks) hroom
        | succ room =>
            have habove : ¬ tree.TooDeep room ⟨root, above.reverse⟩ := fun hdeep =>
              hroom (FileTree.tooDeep_succ_iff.mpr ⟨hlacks, by rwa [Path.parent_reverse_cons]⟩)
            calc makeDirectoriesOf root (room + 1) (name :: above) tree
                = (makeDirectoriesOf root room above >>= fun _ => _) tree :=
                  makeDirectoryOr_of_lacksParent hlacks
              _ = (makeDirectoriesOf root above.length above >>= fun _ => _) tree :=
                  Step.bind_congr_left (ih habove) _
              _ = makeDirectoriesOf root (name :: above).length (name :: above) tree :=
                  (makeDirectoryOr_of_lacksParent hlacks).symm
      · exact makeDirectoryOr_congr (by simp) hlacks

theorem makeDirectoriesWithin_of_tooDeep (hdeep : tree.TooDeep room path) :
    makeDirectoriesWithin room path tree = (.error (.nestedTooDeep .directories), tree) :=
  makeDirectoriesOf_of_tooDeep (by rwa [List.reverse_reverse])

theorem makeDirectoriesWithin_of_not_tooDeep (hroom : ¬ tree.TooDeep room path) :
    makeDirectoriesWithin room path tree = makeDirectories path tree := by
  rw [makeDirectories_eq_of]
  exact makeDirectoriesOf_of_not_tooDeep (by rwa [List.reverse_reverse])

/-- Making directories ends as it would with room for all of them, or fails at once for want of room. -/
theorem makeDirectoriesWithin_cases {result : Except Failure Unit}
    (hmade : makeDirectoriesWithin room path tree = (result, made)) :
    (tree.TooDeep room path ∧ result = .error (.nestedTooDeep .directories) ∧ tree = made) ∨
      (¬ tree.TooDeep room path ∧ makeDirectories path tree = (result, made)) := by
  by_cases hdeep : tree.TooDeep room path
  · rw [makeDirectoriesWithin_of_tooDeep hdeep] at hmade
    obtain ⟨rfl, rfl⟩ := Prod.mk.inj hmade
    exact .inl ⟨hdeep, rfl, rfl⟩
  · rw [makeDirectoriesWithin_of_not_tooDeep hdeep] at hmade
    exact .inr ⟨hdeep, hmade⟩

theorem makeDirectories_of_within (hmade : makeDirectoriesWithin room path tree = (.ok (), made)) :
    makeDirectories path tree = (.ok (), made) := by
  rcases makeDirectoriesWithin_cases hmade with ⟨_, hresult, _⟩ | ⟨_, hmade⟩
  · cases hresult
  · exact hmade

end TreeAction

end AsmLens
