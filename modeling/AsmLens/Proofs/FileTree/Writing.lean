import AsmLens.Proofs.FileTree.Making

/-!
# Reading what was written

A file is written where its path leads through all links. As that place holds neither a directory nor a
link, before and after, the path leads there again when it is read.
-/

namespace AsmLens

namespace FileTree

variable {tree other changed : FileTree} {links left : Nat} {here there location : Location}
  {names : List Text} {route : List Location}

/-- What a walk that may make a file arrives at is also found. -/
theorem walkWith_lookup_of_create
    {make find : Location → Text → List Text → Except Errno Location}
    (hfollow : ∀ {here target rest there}, make here target rest = .ok there →
      find here target rest = .ok there)
    (hwalk : walkWith tree .create make here names = .ok there) :
    walkWith tree .lookup find here names = .ok there := by
  induction names generalizing here with
  | nil => exact hwalk
  | cons name rest ih =>
      rw [walkWith] at hwalk ⊢
      split at hwalk
      · contradiction
      · contradiction
      · contradiction
      · by_cases hstay : name = "." ∨ name = "/"
        · rw [if_pos hstay] at hwalk ⊢
          exact ih hwalk
        · rw [if_neg hstay] at hwalk ⊢
          by_cases hup : name = ".."
          · rw [if_pos hup] at hwalk ⊢
            exact ih hwalk
          · rw [if_neg hup] at hwalk ⊢
            rw [if_neg (by simp : ¬ (Purpose.lookup = .create ∧ rest = [['/']]))]
            split at hwalk
            · contradiction
            · split at hwalk
              · contradiction
              · next hlength =>
                  rw [if_neg hlength]
                  split at hwalk
                  · exact hfollow hwalk
                  · exact ih hwalk
                  · exact hwalk

theorem walk_lookup_of_create (hwalk : walk tree .create links here names = .ok there) :
    walk tree .lookup links here names = .ok there := by
  induction links generalizing here names there with
  | zero => exact walkWith_lookup_of_create (fun hlink => by contradiction) hwalk
  | succ links ih => exact walkWith_lookup_of_create (fun hlink => ih hlink) hwalk

theorem locate_lookup_of_create {path : Text} (hlocate : tree.locate .create path = .ok there) :
    tree.locate .lookup path = .ok there := by
  rw [locate, walkPath] at hlocate ⊢
  split at hlocate
  · contradiction
  · split at hlocate
    · contradiction
    · next hempty hlength =>
        rw [if_neg hempty, if_neg hlength]
        exact walk_lookup_of_create hlocate

/-- A place that is neither a directory nor a link. A route can end there, but goes through it nowhere
else. -/
def IsEnd (tree : FileTree) (location : Location) : Prop :=
  tree.get? location ≠ some .directory ∧ ∀ target, tree.get? location ≠ some (.link target)

/-- Where two trees differ at an end only, they have the same routes. -/
theorem AgreeOff.route_of_isEnd (hagree : AgreeOff tree other location) (hend : tree.IsEnd location)
    (hother : other.IsEnd location) (hroute : Route tree links here names route left there) :
    Route other links here names route left there := by
  have hkept : ∀ {place entry}, tree.get? place = some entry → place ≠ location →
      other.get? place = some entry := fun hplace hne => (hagree.get? _ hne).trans hplace
  have hdirectory : ∀ {place}, tree.get? place = some .directory →
      other.get? place = some .directory := by
    intro place hplace
    refine hkept hplace ?_
    rintro rfl
    exact hend.1 hplace
  -- Only an entry can be at the place itself, and in neither tree it is a link.
  induction hroute with
  | arrived => exact .arrived
  | stay hhere hname _ ih => exact .stay (hdirectory hhere) hname ih
  | up hhere _ ih => exact .up (hdirectory hhere) ih
  | @enter _ _ here _ name _ _ hhere hname hentry _ ih =>
      refine .enter (hdirectory hhere) hname (fun target htarget => ?_) ih
      by_cases heq : name :: here = location
      · rw [heq] at htarget
        exact hother.2 target htarget
      · rw [hagree.get? _ heq] at htarget
        exact hentry target htarget
  | @link _ _ here _ name target _ _ hhere hname hentry _ ih =>
      refine .link (hdirectory hhere) hname (hkept hentry ?_) ih
      rintro rfl
      exact hend.2 target hentry

theorem onPath_eq_ok_iff {α : Type} {path : Text} {result : Except Errno α} {value : α} :
    onPath path result = .ok value ↔ '\x00' ∉ path ∧ result = .ok value := by
  by_cases hnul : '\x00' ∈ path <;> cases result <;> simp [onPath, hnul, Except.mapError]

theorem onPath_eq_error_iff {α : Type} {path : Text} {result : Except Errno α} {failure : Failure} :
    onPath path result = .error failure ↔
      ('\x00' ∈ path ∧ failure = .nulByte) ∨
        ('\x00' ∉ path ∧ ∃ errno, result = .error errno ∧ failure = .os (errno.at path)) := by
  by_cases hnul : '\x00' ∈ path <;> cases result <;> simp [onPath, hnul, Except.mapError, eq_comm]

theorem writeBytes_eq_ok {path : Text} {bytes : List UInt8}
    (hwrite : tree.writeBytes path bytes = .ok changed) :
    ∃ location executable, tree.locate .create path = .ok location ∧ tree.IsEnd location ∧
      changed = tree.insert location (.file bytes executable) := by
  rw [writeBytes] at hwrite
  cases hlocate : tree.locate .create path with
  | error errno => simp [hlocate, bind, Except.bind] at hwrite
  | ok location =>
      simp only [hlocate, bind, Except.bind] at hwrite
      split at hwrite
      · next hnone => exact ⟨location, false, rfl, by simp [IsEnd, hnone], (Except.ok.inj hwrite).symm⟩
      · next executable hfile =>
          exact ⟨location, executable, rfl, by simp [IsEnd, hfile], (Except.ok.inj hwrite).symm⟩
      · contradiction
      · contradiction

/-- A file that was written holds what was written. -/
theorem readBytes_of_writeBytes {path : Text} {bytes : List UInt8}
    (hwrite : tree.writeBytes path bytes = .ok changed) : changed.readBytes path = .ok bytes := by
  obtain ⟨location, executable, hlocate, hend, rfl⟩ := writeBytes_eq_ok hwrite
  obtain ⟨hne, hlength, route, left, hroute⟩ :=
    walkPath_eq_ok_iff.mp (locate_lookup_of_create hlocate)
  have hroot : location ≠ [] := by
    rintro rfl
    exact hend.1 rfl
  have hfile := get?_insert_self tree hroot (.file bytes executable)
  have hagain := (agreeOff_insert tree location (.file bytes executable)).route_of_isEnd hend
    (by simp [IsEnd, hfile]) hroute
  have hstatus := status_eq_ok_iff.mpr
    ⟨location, walkPath_eq_ok_iff.mpr ⟨hne, hlength, route, left, hagain⟩, hfile⟩
  simp only [readBytes, hstatus, bind, Except.bind]

end FileTree

namespace TreeAction

variable {path : Path} {content : Text} {tree changed : FileTree}

theorem writeText_apply (path : Path) (content : Text) (tree : FileTree) :
    writeText path content tree =
      match FileTree.onPath path.toText (tree.writeBytes path.toText content.encode) with
      | .ok changed => (.ok (), changed)
      | .error failure => (.error failure, tree) := by
  unfold writeText
  rw [Step.bind_of_ok (rfl : (get : TreeAction FileTree) tree = (.ok tree, tree))]
  cases FileTree.onPath path.toText (tree.writeBytes path.toText content.encode) <;> rfl

/-- A text is not written for a reason of its path. -/
theorem writeText_eq_error {failure : Failure}
    (hwrite : writeText path content tree = (.error failure, changed)) : failure.OfPath path := by
  rw [writeText_apply] at hwrite
  split at hwrite
  · cases hwrite
  · next herror =>
      cases hwrite
      rcases FileTree.onPath_eq_error_iff.mp herror with ⟨hnul, rfl⟩ | ⟨_, errno, _, rfl⟩
      · exact .nulByte hnul
      · exact .os _

theorem readBytes_of_writeText (hwrite : writeText path content tree = (.ok (), changed)) :
    changed.readBytes path.toText = .ok content.encode := by
  rw [writeText_apply] at hwrite
  split at hwrite
  · next hbytes =>
      cases hwrite
      exact FileTree.readBytes_of_writeBytes (FileTree.onPath_eq_ok_iff.mp hbytes).2
  · cases hwrite

end TreeAction

end AsmLens
