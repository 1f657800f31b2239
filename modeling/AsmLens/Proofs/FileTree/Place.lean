import AsmLens.Proofs.FileTree.Route
import AsmLens.Proofs.PathText

/-!
# The place that a path names

A path names a place in the directory that its parent leads to. The place stays the same in every tree
that differs only there, as long as the parent does not lead through it.
-/

namespace AsmLens.FileTree

/-- The location that a path names in its directory. A path with a NUL byte names none. -/
def Names (tree : FileTree) (path : Path) (location : Location) : Prop :=
  '\x00' ∉ path.toText ∧ tree.slot? path.toText = .ok (some location)

/-- There is nothing at the place that a path names, not even a link that leads nowhere. -/
def Vacant (tree : FileTree) (path : Path) : Prop :=
  ∃ location, tree.Names path location ∧ tree.get? location = none

/-- The entry at a location is looked up on the way to the end of a path. -/
def LeadsThrough (tree : FileTree) (path : Path) (location : Location) : Prop :=
  ∃ route left there, location ∈ route ∧
    Route tree linkLimit (origin tree.workingDirectory path.toText) (steps path.toText) route left there

/-- Two trees with the same working directory and the same entries, but at one location. -/
structure AgreeOff (tree other : FileTree) (location : Location) : Prop where
  workingDirectory : other.workingDirectory = tree.workingDirectory
  get? : ∀ place, place ≠ location → other.get? place = tree.get? place

variable {tree other : FileTree} {location : Location}

theorem agreeOff_erase (tree : FileTree) (location : Location) :
    AgreeOff tree (tree.erase location) location :=
  ⟨rfl, fun _ hne => get?_erase_of_ne tree hne⟩

theorem agreeOff_insert (tree : FileTree) (location : Location) (entry : Entry) :
    AgreeOff tree (tree.insert location entry) location :=
  ⟨rfl, fun _ hne => get?_insert_of_ne tree hne entry⟩

/-- A route that avoids the one location where two trees differ is a route in both. -/
theorem AgreeOff.route (hagree : AgreeOff tree other location)
    (hentry : tree.get? location ≠ some .directory) {links left : Nat} {here there : Location}
    {names : List Text} {route : List Location}
    (hroute : Route tree links here names route left there) (havoids : location ∉ route) :
    Route other links here names route left there := by
  refine hroute.congr (fun place hplace => ?_) (fun place hplace => ?_)
  · refine hagree.get? place ?_
    rintro rfl
    exact havoids hplace
  · rw [hagree.get? place, hplace]
    rintro rfl
    exact hentry hplace

/-! ### What the operations on paths see -/

theorem walkPath_eq_ok_iff {path : Text} {names : List Text} {there : Location} :
    tree.walkPath .lookup path names = .ok there ↔
      path ≠ [] ∧ path.byteLength ≤ pathLimit ∧ ∃ route left,
        Route tree linkLimit (origin tree.workingDirectory path) names route left there := by
  rw [walkPath, ← walk_eq_ok_iff]
  by_cases hempty : path = []
  · simp [hempty]
  · by_cases hlength : path.byteLength ≤ pathLimit
    · simp [hempty, hlength, Nat.not_lt.mpr hlength]
    · simp [hempty, hlength, Nat.not_le.mp hlength]

theorem status_eq_ok_iff {path : Text} {entry : Entry} :
    tree.status path = .ok entry ↔
      ∃ there, tree.locate .lookup path = .ok there ∧ tree.get? there = some entry := by
  rw [status]
  cases hlocate : tree.locate .lookup path with
  | error errno => simp [bind, Except.bind]
  | ok there =>
      cases hentry : tree.get? there with
      | none => simp [bind, Except.bind, hentry]
      | some found => simp [bind, Except.bind, hentry]

theorem isDirectory_eq_true_iff {path : Path} :
    tree.isDirectory path = .ok true ↔
      '\x00' ∉ path.toText ∧ tree.status path.toText = .ok .directory := by
  rw [isDirectory, status?]
  by_cases hnul : '\x00' ∈ path.toText
  · simp [hnul, Except.map]
  · cases hstatus : tree.status path.toText with
    | error errno => cases hmeans : errno.meansAbsent <;> simp [hnul, hmeans, Except.map]
    | ok entry => cases entry <;> simp [hnul, Except.map, Entry.isDirectory]

/-- In a directory that is reached, a path names the place with its last name. -/
theorem slot?_of_walkPath {path : Text} {directory : Location}
    (hwalk : tree.walkPath .lookup path (steps path).dropLast = .ok directory)
    (hdirectory : tree.get? directory = some .directory) :
    tree.slot? path =
      match (steps path).getLast? with
      | none => .ok none
      | some name =>
          if name = "." ∨ name = ".." ∨ name = "/" then .ok none
          else if nameLimit < name.byteLength then .error .nameTooLong
          else .ok (some (name :: directory)) := by
  cases hlast : (steps path).getLast? with
  | none => simp only [slot?, hwalk, bind, Except.bind, hdirectory, hlast]
  | some name => simp only [slot?, hwalk, bind, Except.bind, hdirectory, hlast]

theorem slot?_ne_noEntry {path : Text} {directory : Location}
    (hwalk : tree.walkPath .lookup path (steps path).dropLast = .ok directory)
    (hdirectory : tree.get? directory = some .directory) : tree.slot? path ≠ .error .noEntry := by
  rw [slot?_of_walkPath hwalk hdirectory]
  cases (steps path).getLast? with
  | none => simp
  | some name =>
      simp only
      split
      · simp
      · split <;> simp

theorem slot?_eq_some_iff {path : Text} :
    tree.slot? path = .ok (some location) ↔
      ∃ name directory, location = name :: directory ∧ (steps path).getLast? = some name ∧
        IsEntryName name ∧ tree.walkPath .lookup path (steps path).dropLast = .ok directory ∧
        tree.get? directory = some .directory := by
  constructor
  · intro hslot
    cases hwalk : tree.walkPath .lookup path (steps path).dropLast with
    | error errno => simp [slot?, hwalk, bind, Except.bind] at hslot
    | ok directory =>
        have hdirectory : tree.get? directory = some .directory := by
          simp only [slot?, hwalk, bind, Except.bind] at hslot
          split at hslot
          · contradiction
          · contradiction
          · contradiction
          · assumption
        rw [slot?_of_walkPath hwalk hdirectory] at hslot
        split at hslot
        · cases hslot
        · next name hlast =>
            split at hslot
            · cases hslot
            · next hproper =>
                obtain ⟨hdot, hdots, hslash⟩ : name ≠ "." ∧ name ≠ ".." ∧ name ≠ "/" := by
                  simpa only [not_or] using hproper
                split at hslot
                · cases hslot
                · next hlength =>
                    cases hslot
                    exact ⟨name, directory, rfl, hlast, ⟨hdot, hslash, hdots, Nat.not_lt.mp hlength⟩,
                      rfl, hdirectory⟩
  · rintro ⟨name, directory, rfl, hlast, ⟨hdot, hslash, hdots, hlength⟩, hwalk, hdirectory⟩
    rw [slot?_of_walkPath hwalk hdirectory, hlast]
    simp only [hdot, hslash, hdots, or_self, if_false, if_neg (Nat.not_lt.mpr hlength)]

/-- At a vacant place nothing is found. -/
theorem isThere_of_vacant {path : Path} (hvacant : tree.Vacant path) :
    tree.isThere path = .ok false := by
  obtain ⟨location, ⟨hnul, hslot⟩, hnone⟩ := hvacant
  obtain ⟨name, directory, rfl, hlast, hname, hwalk, hdirectory⟩ := slot?_eq_some_iff.mp hslot
  obtain ⟨hne, hlength, route, left, hroute⟩ := walkPath_eq_ok_iff.mp hwalk
  have hwhole := hroute.append (.enter hdirectory hname (by simp [hnone]) .arrived)
  rw [List.dropLast_append_getLast? name hlast] at hwhole
  have hlocate : tree.locate .lookup path.toText = .ok (name :: directory) :=
    walkPath_eq_ok_iff.mpr ⟨hne, hlength, _, _, hwhole⟩
  have hstatus : tree.status path.toText = .error .noEntry := by
    simp only [status, hlocate, bind, Except.bind, hnone]
  have hcontains : path.toText.contains '\x00' = false := by simpa using hnul
  simp only [isThere, status?, hcontains, hstatus, Errno.meansAbsent, Except.map]
  rfl

/-! ### The place below the parent -/

/-- A walk to the end of a directory's path ends there. -/
theorem exists_route_of_isDirectory {path : Path} (hdirectory : tree.isDirectory path = .ok true) :
    ∃ route left there,
      Route tree linkLimit (origin tree.workingDirectory path.toText) (steps path.toText) route left
        there ∧
      tree.get? there = some .directory := by
  obtain ⟨_, hstatus⟩ := isDirectory_eq_true_iff.mp hdirectory
  obtain ⟨there, hlocate, hthere⟩ := status_eq_ok_iff.mp hstatus
  obtain ⟨_, _, route, left, hroute⟩ := walkPath_eq_ok_iff.mp hlocate
  exact ⟨route, left, there, hroute, hthere⟩

/-- The names before the last one lead where the parent leads, and through nothing else. -/
theorem exists_route_to_parent {path : Path} (hnormal : path.Normal)
    (hdirectory : tree.isDirectory path.parent = .ok true) :
    ∃ route left directory,
      Route tree linkLimit (origin tree.workingDirectory path.toText) (steps path.toText).dropLast
        route left directory ∧
      tree.get? directory = some .directory ∧
      ∀ place ∈ route, tree.LeadsThrough path.parent place := by
  obtain ⟨route, left, there, hroute, hthere⟩ := exists_route_of_isDirectory hdirectory
  rw [hnormal.dropLast_steps_toText, ← hnormal.origin_parent]
  by_cases hnames : path.parent.names = []
  · -- The parent's text is a single dot or a slash then, which is looked up where the path starts.
    obtain ⟨name, hname, hsteps⟩ := Path.steps_toText_of_names_eq_nil hnames
    rw [hnames]
    refine ⟨[], _, _, .arrived, ?_, by simp⟩
    rw [hsteps] at hroute
    cases hroute with
    | stay hhere => exact hhere
    | up hhere => exact hhere
    | enter hhere => exact hhere
    | link hhere => exact hhere
  · have hparent := hroute
    rw [hnormal.parent.steps_toText hnames] at hroute
    exact ⟨route, left, there, hroute, hthere, fun place hplace =>
      ⟨route, left, there, hplace, hparent⟩⟩

/-- Below a directory, the place that a path names is not wanting for a directory above it. -/
theorem slot?_ne_noEntry_of_isDirectory {path : Path} (hnormal : path.Normal)
    (hdirectory : tree.isDirectory path.parent = .ok true) :
    tree.slot? path.toText ≠ .error .noEntry := by
  obtain ⟨route, left, directory, hroute, hparent, _⟩ := exists_route_to_parent hnormal hdirectory
  by_cases hlength : path.toText.byteLength ≤ pathLimit
  · exact slot?_ne_noEntry
      (walkPath_eq_ok_iff.mpr ⟨hnormal.toText_ne_nil, hlength, route, left, hroute⟩) hparent
  · have hwalk : tree.walkPath .lookup path.toText (steps path.toText).dropLast =
        .error .nameTooLong := by
      rw [walkPath, if_neg (by simpa using hnormal.toText_ne_nil), if_pos (Nat.not_le.mp hlength)]
    rw [slot?, hwalk]
    simp [bind, Except.bind]

/-- In a tree that differs at a location only, a parent that does not lead through it is still a
directory. -/
theorem AgreeOff.isDirectory (hagree : AgreeOff tree other location)
    (hentry : tree.get? location ≠ some .directory) {path : Path}
    (hdirectory : tree.isDirectory path = .ok true) (havoids : ¬ tree.LeadsThrough path location) :
    other.isDirectory path = .ok true := by
  obtain ⟨hnul, hstatus⟩ := isDirectory_eq_true_iff.mp hdirectory
  obtain ⟨there, hlocate, hthere⟩ := status_eq_ok_iff.mp hstatus
  obtain ⟨hne, hlength, route, left, hroute⟩ := walkPath_eq_ok_iff.mp hlocate
  have hother := hagree.route hentry hroute fun hmem => havoids ⟨route, left, there, hmem, hroute⟩
  rw [← hagree.workingDirectory] at hother
  refine isDirectory_eq_true_iff.mpr ⟨hnul, status_eq_ok_iff.mpr ⟨there, ?_, ?_⟩⟩
  · exact walkPath_eq_ok_iff.mpr ⟨hne, hlength, route, left, hother⟩
  · rw [hagree.get? there, hthere]
    rintro rfl
    exact hentry hthere

theorem AgreeOff.names (hagree : AgreeOff tree other location)
    (hentry : tree.get? location ≠ some .directory) {path : Path} (hnormal : path.Normal)
    (hdirectory : tree.isDirectory path.parent = .ok true)
    (havoids : ¬ tree.LeadsThrough path.parent location) (hnames : tree.Names path location) :
    other.Names path location := by
  obtain ⟨hnul, hslot⟩ := hnames
  obtain ⟨name, directory, rfl, hlast, hname, hwalk, hwhole⟩ := slot?_eq_some_iff.mp hslot
  obtain ⟨hne, hlength, _⟩ := walkPath_eq_ok_iff.mp hwalk
  obtain ⟨route, left, parent, hroute, hparent, hleads⟩ :=
    exists_route_to_parent hnormal hdirectory
  obtain rfl : parent = directory :=
    Except.ok.inj ((walkPath_eq_ok_iff.mpr ⟨hne, hlength, route, left, hroute⟩).symm.trans hwalk)
  have hother := hagree.route hentry hroute fun hmem => havoids (hleads _ hmem)
  rw [← hagree.workingDirectory] at hother
  refine ⟨hnul, slot?_eq_some_iff.mpr ⟨name, parent, rfl, hlast, hname, ?_, ?_⟩⟩
  · exact walkPath_eq_ok_iff.mpr ⟨hne, hlength, route, left, hother⟩
  · rw [hagree.get? parent (by simp), hparent]

end AsmLens.FileTree
