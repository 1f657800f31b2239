import AsmLens.ObjectFile
import AsmLens.Proofs.FileTree.Place
import AsmLens.Proofs.Steps

/-!
# Making directories and removing files

What the steps on a file tree do, read off once from their definitions. Given enough room, they fail with
errors of the operating system and with paths that hold a NUL byte, and in no other way.
-/

namespace AsmLens

/-- The ways in which a step on a file tree fails. -/
def Failure.OfTree : Failure → Prop
  | .os _ | .nulByte | .nestedTooDeep .directories => True
  | _ => False

/-- What a step on a path fails with: an error of the operating system, or a NUL byte in the path. -/
inductive Failure.OfPath (path : Path) : Failure → Prop
  | os (error : OsError) : OfPath path (.os error)
  | nulByte (hnul : '\x00' ∈ path.toText) : OfPath path .nulByte

theorem Failure.OfPath.ofTree {path : Path} {failure : Failure} (hpath : failure.OfPath path) :
    failure.OfTree := by
  cases hpath <;> trivial

/-- A step on a path above fails with what one on the path itself could fail with. -/
theorem Failure.OfPath.below {path above : Path} {failure : Failure} (habove : failure.OfPath above)
    (hnames : ∀ name ∈ above.names, name ∈ path.names) : failure.OfPath path := by
  cases habove with
  | os error => exact .os error
  | nulByte hnul =>
      rw [Path.mem_toText_iff (by decide) (by decide)] at hnul
      obtain ⟨name, hname, hc⟩ := hnul
      exact .nulByte ((Path.mem_toText_iff (by decide) (by decide)).mpr ⟨name, hnames name hname, hc⟩)

namespace FileTree

variable {tree changed : FileTree} {path : Path}

theorem makeDirectory_eq_ok_iff {path : Text} :
    tree.makeDirectory path = .ok changed ↔
      ∃ location, tree.slot? path = .ok (some location) ∧ tree.get? location = none ∧
        tree.insert location .directory = changed := by
  rw [makeDirectory]
  cases hslot : tree.slot? path with
  | error errno => simp [bind, Except.bind]
  | ok slot =>
      cases slot with
      | none => simp [bind, Except.bind]
      | some location => cases hentry : tree.get? location <;> simp [bind, Except.bind, hentry]

theorem unlink_eq_ok_iff {path : Text} :
    tree.unlink path = .ok changed ↔
      ∃ location entry, tree.slot? path = .ok (some location) ∧ tree.get? location = some entry ∧
        entry ≠ .directory ∧ tree.erase location = changed := by
  rw [unlink]
  cases hslot : tree.slot? path with
  | error errno => simp [bind, Except.bind]
  | ok slot =>
      cases slot with
      | none => simp [bind, Except.bind]
      | some location =>
          cases hentry : tree.get? location with
          | none => simp [bind, Except.bind, hentry]
          | some entry => cases entry <;> simp [bind, Except.bind, hentry]

theorem unlink_eq_noEntry_iff {path : Text} :
    tree.unlink path = .error .noEntry ↔
      tree.slot? path = .error .noEntry ∨
        ∃ location, tree.slot? path = .ok (some location) ∧ tree.get? location = none := by
  rw [unlink]
  cases hslot : tree.slot? path with
  | error errno => simp [bind, Except.bind]
  | ok slot =>
      cases slot with
      | none => simp [bind, Except.bind]
      | some location =>
          cases hentry : tree.get? location with
          | none => simp [bind, Except.bind, hentry]
          | some entry => cases entry <;> simp [bind, Except.bind, hentry]

theorem isDirectory_of_makeDirectory (hnul : '\x00' ∉ path.toText)
    (hmade : tree.makeDirectory path.toText = .ok changed) : changed.isDirectory path = .ok true := by
  obtain ⟨location, hslot, hvacant, rfl⟩ := makeDirectory_eq_ok_iff.mp hmade
  obtain ⟨name, directory, rfl, hlast, hname, hwalk, hdirectory⟩ := slot?_eq_some_iff.mp hslot
  obtain ⟨hne, hlength, route, left, hroute⟩ := walkPath_eq_ok_iff.mp hwalk
  have hnotDirectory : tree.get? (name :: directory) ≠ some .directory := by simp [hvacant]
  -- Everything on the way to the directory above is there, so the new directory is not on that way.
  have havoids : name :: directory ∉ route := fun hmem =>
    hroute.get?_ne_none (by simp [hdirectory]) _ hmem hvacant
  have habove := (agreeOff_insert tree (name :: directory) .directory).route hnotDirectory hroute
    havoids
  have hnew : (tree.insert (name :: directory) .directory).get? (name :: directory) =
      some .directory := get?_insert_self tree (List.cons_ne_nil _ _) .directory
  have hstill : (tree.insert (name :: directory) .directory).get? directory = some .directory := by
    rw [get?_insert_of_ne tree (by simp), hdirectory]
  have hsteps : (steps path.toText).dropLast ++ [name] = steps path.toText :=
    List.dropLast_append_getLast? name hlast
  have hwhole := habove.append (.enter hstill hname (by simp [hnew]) .arrived)
  rw [hsteps] at hwhole
  exact isDirectory_eq_true_iff.mpr ⟨hnul, status_eq_ok_iff.mpr
    ⟨_, walkPath_eq_ok_iff.mpr ⟨hne, hlength, _, _, hwhole⟩, hnew⟩⟩

/-- Below a route that ends at an entry, the last name of the route is taken. -/
theorem get?_ne_none_of_route {links left : Nat} {here there : Location} {name : Text}
    {route : List Location} (hroute : Route tree links here [name] route left there)
    (hthere : tree.get? there ≠ none) (hname : IsEntryName name) :
    tree.get? (name :: here) ≠ none := by
  obtain ⟨hdot, hslash, hdots, _⟩ := hname
  cases hroute with
  | stay _ hstay => exact absurd hstay (not_or.mpr ⟨hdot, hslash⟩)
  | up => exact absurd rfl hdots
  | enter _ _ _ hrest =>
      cases hrest
      exact hthere
  | link _ _ hentry =>
      rw [hentry]
      exact Option.some_ne_none _

/-- A directory is in another one, where its own name is taken. -/
theorem exists_above_of_isDirectory (hdirectory : tree.isDirectory path = .ok true) :
    ∃ above, tree.walkPath .lookup path.toText (steps path.toText).dropLast = .ok above ∧
      tree.get? above = some .directory ∧
      ∀ name, (steps path.toText).getLast? = some name → IsEntryName name →
        tree.get? (name :: above) ≠ none := by
  obtain ⟨_, hstatus⟩ := isDirectory_eq_true_iff.mp hdirectory
  obtain ⟨there, hlocate, hthere⟩ := status_eq_ok_iff.mp hstatus
  obtain ⟨hne, hlength, route, left, hroute⟩ := walkPath_eq_ok_iff.mp hlocate
  have hentry : tree.get? there ≠ none := by simp [hthere]
  cases hlast : (steps path.toText).getLast? with
  | none =>
      rw [List.getLast?_eq_none_iff] at hlast
      rw [hlast] at hroute ⊢
      exact ⟨there, walkPath_eq_ok_iff.mpr ⟨hne, hlength, route, left, hroute⟩, hthere, by simp⟩
  | some last =>
      rw [← List.dropLast_append_getLast? last hlast] at hroute
      obtain ⟨way, more, between, above, _, hfirst, hsecond⟩ := hroute.exists_of_append
      refine ⟨above, walkPath_eq_ok_iff.mpr ⟨hne, hlength, way, between, hfirst⟩, ?_, ?_⟩
      · cases hsecond with
        | stay habove => exact habove
        | up habove => exact habove
        | enter habove => exact habove
        | link habove => exact habove
      · rintro name hname hproper
        obtain rfl : last = name := Option.some.inj hname
        exact get?_ne_none_of_route hsecond hentry hproper

/-- A directory cannot be made again, and this is not for want of a directory above it. -/
theorem makeDirectory_of_isDirectory (hdirectory : tree.isDirectory path = .ok true) :
    ∃ errno, errno ≠ .noEntry ∧ tree.makeDirectory path.toText = .error errno := by
  obtain ⟨above, hwalk, habove, htaken⟩ := exists_above_of_isDirectory hdirectory
  cases hmade : tree.makeDirectory path.toText with
  | ok changed =>
      obtain ⟨location, hslot, hvacant, _⟩ := makeDirectory_eq_ok_iff.mp hmade
      obtain ⟨name, directory, rfl, hlast, hname, hother, _⟩ := slot?_eq_some_iff.mp hslot
      obtain rfl : above = directory := Except.ok.inj (hwalk.symm.trans hother)
      exact absurd hvacant (htaken name hlast hname)
  | error errno =>
      refine ⟨errno, ?_, rfl⟩
      rintro rfl
      rw [makeDirectory] at hmade
      cases hslot : tree.slot? path.toText with
      | error errno =>
          obtain rfl : errno = .noEntry := by simpa [hslot, bind, Except.bind] using hmade
          exact slot?_ne_noEntry hwalk habove hslot
      | ok slot =>
          cases slot with
          | none => simp [hslot, bind, Except.bind] at hmade
          | some location =>
              cases hentry : tree.get? location <;> simp [hslot, hentry, bind, Except.bind] at hmade

end FileTree

namespace TreeAction

variable {path : Path} {whenAbsent : TreeAction Unit} {tree made changed : FileTree} {failure : Failure}

theorem makeDirectoryOr_apply (path : Path) (whenAbsent : TreeAction Unit) (tree : FileTree) :
    makeDirectoryOr path whenAbsent tree =
      if path.toText.contains '\x00' then
        (.error .nulByte, tree)
      else
        match tree.makeDirectory path.toText with
        | .ok changed => (.ok (), changed)
        | .error .noEntry => whenAbsent tree
        | .error errno =>
            match tree.isDirectory path with
            | .ok true => (.ok (), tree)
            | .ok false => (.error (.os (errno.at path.toText)), tree)
            | .error error => (.error (.os error), tree) := by
  unfold makeDirectoryOr
  rw [Step.bind_of_ok (rfl : (get : TreeAction FileTree) tree = (.ok tree, tree))]
  split
  · rfl
  · cases tree.makeDirectory path.toText with
    | ok changed => rfl
    | error errno =>
        cases tree.isDirectory path with
        | error error => cases errno <;> rfl
        | ok directory => cases directory <;> cases errno <;> rfl

/-- How making a directory ends: it is new, or it was there, or the rest is left to another action, or it
has failed and nothing has changed. -/
inductive Makes (path : Path) (whenAbsent : TreeAction Unit) (tree : FileTree) :
    Except Failure Unit → FileTree → Prop
  | made {made : FileTree} (hnul : '\x00' ∉ path.toText)
      (hmake : tree.makeDirectory path.toText = .ok made) : Makes path whenAbsent tree (.ok ()) made
  | present (hdirectory : tree.isDirectory path = .ok true) : Makes path whenAbsent tree (.ok ()) tree
  | absent {result : Except Failure Unit} {made : FileTree} (habsent : whenAbsent tree = (result, made)) :
      Makes path whenAbsent tree result made
  | failed {failure : Failure} (hpath : failure.OfPath path) :
      Makes path whenAbsent tree (.error failure) tree

theorem makes {result : Except Failure Unit}
    (hmade : makeDirectoryOr path whenAbsent tree = (result, changed)) :
    Makes path whenAbsent tree result changed := by
  rw [makeDirectoryOr_apply] at hmade
  split at hmade
  · next hnul =>
      cases hmade
      exact .failed (.nulByte (by simpa using hnul))
  · next hnul =>
      split at hmade
      · next hmake =>
          cases hmade
          exact .made (by simpa using hnul) hmake
      · exact .absent hmade
      · split at hmade
        · next hdirectory =>
            cases hmade
            exact .present hdirectory
        · cases hmade
          exact .failed (.os _)
        · cases hmade
          exact .failed (.os _)

theorem makeDirectoryOr_throw_eq_error {error : OsError}
    (hmade : makeDirectoryOr path (throw (.os error)) tree = (.error failure, changed)) :
    failure.OfPath path := by
  cases makes hmade with
  | absent hthrow =>
      cases hthrow
      exact .os error
  | failed hpath => exact hpath

theorem makeDirectories_eq_of (path : Path) :
    makeDirectories path =
      makeDirectoriesOf path.root path.names.reverse.length path.names.reverse := by
  rw [makeDirectories, makeDirectoriesWithin, List.length_reverse]

theorem makeDirectoriesOf_eq_error {root : Root} {names : List Text}
    (hmade : makeDirectoriesOf root names.length names tree = (.error failure, changed)) :
    failure.OfPath ⟨root, names.reverse⟩ := by
  induction names generalizing tree changed with
  | nil => exact makeDirectoryOr_throw_eq_error hmade
  | cons name above ih =>
      cases makes hmade with
      | absent habsent =>
          rcases Step.error_or_exists_of_bind_eq_error habsent with habove | ⟨_, _, _, hagain⟩
          · refine (ih habove).below fun other hother => ?_
            rw [List.reverse_cons]
            exact List.mem_append_left [name] hother
          · exact makeDirectoryOr_throw_eq_error hagain
      | failed hpath => exact hpath

theorem isDirectory_of_makeDirectoryOr_throw
    (hmade : makeDirectoryOr path (throw failure) tree = (.ok (), made)) :
    made.isDirectory path = .ok true := by
  cases makes hmade with
  | made hnul hnew => exact FileTree.isDirectory_of_makeDirectory hnul hnew
  | present hthere => exact hthere
  | absent hthrow => cases hthrow

theorem makeDirectories_eq_error (hmade : makeDirectories path tree = (.error failure, changed)) :
    failure.OfPath path := by
  rw [makeDirectories_eq_of] at hmade
  have hpath := makeDirectoriesOf_eq_error hmade
  rwa [List.reverse_reverse] at hpath

theorem isDirectory_of_makeDirectoriesOf {root : Root} {names : List Text}
    (hmade : makeDirectoriesOf root names.length names tree = (.ok (), made)) :
    made.isDirectory ⟨root, names.reverse⟩ = .ok true := by
  cases names with
  | nil => exact isDirectory_of_makeDirectoryOr_throw hmade
  | cons name above =>
      cases makes hmade with
      | made hnul hnew => exact FileTree.isDirectory_of_makeDirectory hnul hnew
      | present hthere => exact hthere
      | absent habsent =>
          obtain ⟨_, between, _, hagain⟩ := Step.exists_of_bind_eq_ok habsent
          exact isDirectory_of_makeDirectoryOr_throw hagain

theorem isDirectory_of_makeDirectories (hmade : makeDirectories path tree = (.ok (), made)) :
    made.isDirectory path = .ok true := by
  rw [makeDirectories_eq_of] at hmade
  have hdirectory := isDirectory_of_makeDirectoriesOf hmade
  rwa [List.reverse_reverse] at hdirectory

theorem makeDirectoryOr_of_isDirectory (hdirectory : tree.isDirectory path = .ok true)
    (whenAbsent : TreeAction Unit) : makeDirectoryOr path whenAbsent tree = (.ok (), tree) := by
  obtain ⟨hnul, _⟩ := FileTree.isDirectory_eq_true_iff.mp hdirectory
  obtain ⟨errno, hne, herror⟩ := FileTree.makeDirectory_of_isDirectory hdirectory
  rw [makeDirectoryOr_apply, if_neg (by simpa using hnul), herror]
  cases errno with
  | noEntry => contradiction
  | _ => simp only [hdirectory]

theorem makeDirectoriesWithin_of_isDirectory (room : Nat)
    (hdirectory : tree.isDirectory path = .ok true) :
    makeDirectoriesWithin room path tree = (.ok (), tree) := by
  have hpath : (⟨path.root, path.names.reverse.reverse⟩ : Path) = path := by
    rw [List.reverse_reverse]
  rw [← hpath] at hdirectory
  unfold makeDirectoriesWithin
  cases hnames : path.names.reverse with
  | nil =>
      rw [hnames] at hdirectory
      exact makeDirectoryOr_of_isDirectory hdirectory _
  | cons name above =>
      rw [hnames] at hdirectory
      exact makeDirectoryOr_of_isDirectory hdirectory _

theorem makeDirectories_of_isDirectory (hdirectory : tree.isDirectory path = .ok true) :
    makeDirectories path tree = (.ok (), tree) :=
  makeDirectoriesWithin_of_isDirectory _ hdirectory

theorem remove_apply (path : Path) (tree : FileTree) :
    remove path tree =
      if path.toText.contains '\x00' then
        (.error .nulByte, tree)
      else
        match tree.unlink path.toText with
        | .ok changed => (.ok (), changed)
        | .error .noEntry => (.ok (), tree)
        | .error errno => (.error (.os (errno.at path.toText)), tree) := by
  unfold remove
  rw [Step.bind_of_ok (rfl : (get : TreeAction FileTree) tree = (.ok tree, tree))]
  split
  · rfl
  · cases tree.unlink path.toText with
    | ok changed => rfl
    | error errno => cases errno <;> rfl

/-- How removing ends: the entry at the place is gone, or nothing was there, or it has failed and nothing
has changed. -/
inductive Removes (path : Path) (tree : FileTree) : Except Failure Unit → FileTree → Prop
  | removed {location : Location} {entry : Entry} (hnames : tree.Names path location)
      (hentry : tree.get? location = some entry) (hne : entry ≠ .directory) :
      Removes path tree (.ok ()) (tree.erase location)
  | absent (hnone : tree.slot? path.toText = .error .noEntry ∨ tree.Vacant path) :
      Removes path tree (.ok ()) tree
  | failed {failure : Failure} (hpath : failure.OfPath path) : Removes path tree (.error failure) tree

theorem removes {result : Except Failure Unit} (hremove : remove path tree = (result, changed)) :
    Removes path tree result changed := by
  rw [remove_apply] at hremove
  split at hremove
  · next hnul =>
      cases hremove
      exact .failed (.nulByte (by simpa using hnul))
  · next hnul =>
      have hfree : '\x00' ∉ path.toText := by simpa using hnul
      split at hremove
      · next hunlink =>
          cases hremove
          obtain ⟨location, entry, hslot, hentry, hne, rfl⟩ := FileTree.unlink_eq_ok_iff.mp hunlink
          exact .removed ⟨hfree, hslot⟩ hentry hne
      · next hunlink =>
          cases hremove
          refine .absent ((FileTree.unlink_eq_noEntry_iff.mp hunlink).imp id ?_)
          rintro ⟨location, hslot, hnone⟩
          exact ⟨location, ⟨hfree, hslot⟩, hnone⟩
      · cases hremove
        exact .failed (.os _)

theorem nul_not_mem_of_remove (hremove : remove path tree = (.ok (), changed)) :
    '\x00' ∉ path.toText := by
  intro hnul
  rw [remove_apply, if_pos (by simpa using hnul)] at hremove
  cases hremove

theorem remove_eq_error (hremove : remove path tree = (.error failure, changed)) :
    failure.OfPath path ∧ tree = changed := by
  cases removes hremove with
  | failed hpath => exact ⟨hpath, rfl⟩

theorem remove_of_vacant (hvacant : tree.Vacant path) : remove path tree = (.ok (), tree) := by
  obtain ⟨location, ⟨hnul, hslot⟩, hnone⟩ := hvacant
  rw [remove_apply, if_neg (by simpa using hnul),
    FileTree.unlink_eq_noEntry_iff.mpr (.inr ⟨location, hslot, hnone⟩)]

theorem remove_of_entry {location : Location} {entry : Entry} (hnames : tree.Names path location)
    (hentry : tree.get? location = some entry) (hne : entry ≠ .directory) :
    remove path tree = (.ok (), tree.erase location) := by
  rw [remove_apply, if_neg (by simpa using hnames.1),
    FileTree.unlink_eq_ok_iff.mpr ⟨location, entry, hnames.2, hentry, hne, rfl⟩]

/-- Removing leaves nothing at the place that a path names, and changes nothing else. -/
theorem exists_names_of_remove (hnormal : path.Normal)
    (hparent : tree.isDirectory path.parent = .ok true)
    (hremove : remove path tree = (.ok (), changed)) :
    ∃ location, tree.Names path location ∧ tree.get? location ≠ some .directory ∧
      tree.AgreeOff changed location ∧ changed.get? location = none := by
  cases removes hremove with
  | @removed location entry hnames hentry hne =>
      obtain ⟨name, directory, rfl, _⟩ := FileTree.slot?_eq_some_iff.mp hnames.2
      refine ⟨_, hnames, ?_, FileTree.agreeOff_erase tree _,
        FileTree.get?_erase_self tree (List.cons_ne_nil _ _)⟩
      rw [hentry]
      exact fun heq => hne (Option.some.inj heq)
  | absent hnone =>
      rcases hnone with hslot | ⟨location, hnames, hvacant⟩
      · exact absurd hslot (FileTree.slot?_ne_noEntry_of_isDirectory hnormal hparent)
      · exact ⟨location, hnames, by simp [hvacant], ⟨rfl, fun _ _ => rfl⟩, hvacant⟩

end TreeAction

end AsmLens
