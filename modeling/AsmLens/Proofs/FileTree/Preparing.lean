import AsmLens.Proofs.FileTree.Nesting

/-!
# What preparing an object leaves alone

Making directories adds entries and changes none. So preparing the place of an object takes at most one
entry away: the one in whose place the object path stands.
-/

namespace AsmLens

namespace FileTree

def Keeps (tree other : FileTree) : Prop :=
  ∀ place entry, tree.get? place = some entry → other.get? place = some entry

/-- Another tree has the same entries, and at most directories where there was nothing. -/
structure Extends (tree other : FileTree) : Prop where
  workingDirectory : other.workingDirectory = tree.workingDirectory
  get? : ∀ place, other.get? place = tree.get? place ∨
    (tree.get? place = none ∧ other.get? place = some .directory)

variable {tree other last : FileTree} {place : Location} {path : Path} {entry : Entry}

theorem Extends.refl (tree : FileTree) : tree.Extends tree :=
  ⟨rfl, fun _ => .inl rfl⟩

theorem Extends.trans (hfirst : tree.Extends other) (hsecond : other.Extends last) :
    tree.Extends last := by
  refine ⟨hsecond.workingDirectory.trans hfirst.workingDirectory, fun place => ?_⟩
  rcases hfirst.get? place with hsame | ⟨hvacant, hmade⟩
  · rw [← hsame]
    exact hsecond.get? place
  · rcases hsecond.get? place with hsame | ⟨hnone, _⟩
    · exact .inr ⟨hvacant, hsame.trans hmade⟩
    · rw [hmade] at hnone
      cases hnone

theorem Extends.keeps (hextends : tree.Extends other) : tree.Keeps other := by
  intro place entry hentry
  rcases hextends.get? place with hsame | ⟨hvacant, _⟩
  · rw [hsame, hentry]
  · rw [hvacant] at hentry
    cases hentry

theorem extends_insert (hvacant : tree.get? place = none) :
    tree.Extends (tree.insert place .directory) := by
  have hroot : place ≠ [] := by
    rintro rfl
    cases hvacant
  refine ⟨rfl, fun other => ?_⟩
  by_cases heq : other = place
  · rw [heq]
    exact .inr ⟨hvacant, get?_insert_self tree hroot .directory⟩
  · exact .inl (get?_insert_of_ne tree heq .directory)

theorem ne_nil_of_get? (hentry : tree.get? place = some entry) (hne : entry ≠ .directory) : place ≠ [] := by
  rintro rfl
  exact hne (Option.some.inj hentry).symm

theorem Names.eq_of_slot? (hnames : tree.Names path place) {location : Location}
    (hslot : tree.slot? path.toText = .ok (some location)) : place = location :=
  Option.some.inj (Except.ok.inj (hnames.2.symm.trans hslot))

end FileTree

namespace TreeAction

variable {α β : Type} {action : TreeAction α} {next : α → TreeAction β} {path : Path}
  {tree changed : FileTree} {place : Location} {entry : Entry}

/-- Directories are made where nothing was, and nothing else changes, however the action ends. -/
def OnlyMakesDirectories (action : TreeAction α) : Prop :=
  ∀ tree : FileTree, tree.Extends (action tree).2

theorem onlyMakesDirectories_throw (failure : Failure) :
    (throw failure : TreeAction α).OnlyMakesDirectories :=
  fun tree => .refl tree

theorem OnlyMakesDirectories.bind (haction : action.OnlyMakesDirectories)
    (hnext : ∀ value, (next value).OnlyMakesDirectories) :
    (action >>= next).OnlyMakesDirectories := by
  intro tree
  have hfirst := haction tree
  cases hresult : action tree with
  | mk result between =>
      rw [hresult] at hfirst
      cases result with
      | error failure =>
          rw [Step.bind_of_error hresult]
          exact hfirst
      | ok value =>
          rw [Step.bind_of_ok hresult]
          exact hfirst.trans (hnext value between)

theorem onlyMakesDirectories_makeDirectoryOr {whenAbsent : TreeAction Unit}
    (habsent : whenAbsent.OnlyMakesDirectories) :
    (makeDirectoryOr path whenAbsent).OnlyMakesDirectories := by
  intro tree
  obtain ⟨⟨result, changed⟩, hmade⟩ : ∃ outcome, makeDirectoryOr path whenAbsent tree = outcome :=
    ⟨_, rfl⟩
  rw [hmade]
  cases makes hmade with
  | made _ hmake =>
      obtain ⟨location, _, hvacant, rfl⟩ := FileTree.makeDirectory_eq_ok_iff.mp hmake
      exact FileTree.extends_insert hvacant
  | present => exact .refl tree
  | absent hother =>
      have hextends := habsent tree
      rwa [hother] at hextends
  | failed => exact .refl tree

theorem onlyMakesDirectories_makeDirectoriesOf (root : Root) (room : Nat) (names : List Text) :
    (makeDirectoriesOf root room names).OnlyMakesDirectories := by
  induction names generalizing room with
  | nil => exact onlyMakesDirectories_makeDirectoryOr (onlyMakesDirectories_throw _)
  | cons name above ih =>
      refine onlyMakesDirectories_makeDirectoryOr ?_
      cases room with
      | zero => exact onlyMakesDirectories_throw _
      | succ room =>
          exact (ih room).bind fun _ =>
            onlyMakesDirectories_makeDirectoryOr (onlyMakesDirectories_throw _)

theorem extends_of_makeDirectories {room : Nat} {result : Except Failure Unit}
    (hmade : makeDirectoriesWithin room path tree = (result, changed)) : tree.Extends changed := by
  have hextends := onlyMakesDirectories_makeDirectoriesOf path.root room path.names.reverse tree
  unfold makeDirectoriesWithin at hmade
  rwa [hmade] at hextends

/-- Removing leaves an entry as it is, or takes it away where the path names its place. -/
theorem get?_of_remove {result : Except Failure Unit} (hremove : remove path tree = (result, changed))
    (hentry : tree.get? place = some entry) :
    changed.get? place = some entry ∨
      (tree.Names path place ∧ entry ≠ .directory ∧ changed.get? place = none) := by
  cases removes hremove with
  | @removed location found hnames hfound hne =>
      by_cases heq : place = location
      · subst heq
        obtain rfl := Option.some.inj (hentry.symm.trans hfound)
        have hplace := FileTree.ne_nil_of_get? hentry hne
        exact .inr ⟨hnames, hne, FileTree.get?_erase_self tree hplace⟩
      · exact .inl ((FileTree.get?_erase_of_ne tree heq).trans hentry)
  | absent => exact .inl hentry
  | failed => exact .inl hentry

theorem get?_eq_none_of_remove (hremove : remove path tree = (.ok (), changed))
    (hnames : tree.Names path place) : changed.get? place = none := by
  cases removes hremove with
  | removed hother hfound hne =>
      obtain rfl := hnames.eq_of_slot? hother.2
      exact FileTree.get?_erase_self tree (FileTree.ne_nil_of_get? hfound hne)
  | absent hnone =>
      rcases hnone with hslot | ⟨location, hother, hvacant⟩
      · rw [hnames.2] at hslot
        cases hslot
      · obtain rfl := hnames.eq_of_slot? hother.2
        exact hvacant

end TreeAction

namespace ObjectFile

variable {tree prepared changed : FileTree} {room : Nat} {object : Path} {place : Location}
  {entry : Entry} {result : Except Failure Unit} {failure : Failure}

/-- The parent of an object path does not go through the entry that the path names, once the parent is
there. -/
def Apart (tree : FileTree) (object : Path) : Prop :=
  ∀ made location, TreeAction.makeDirectories object.parent tree = (.ok (), made) →
    made.Names object location → ¬ made.LeadsThrough object.parent location

/-- Once its directory has been made, an object path names a place. -/
def StandsAt (tree : FileTree) (object : Path) (place : Location) : Prop :=
  ∃ made, TreeAction.makeDirectories object.parent tree = (.ok (), made) ∧ made.Names object place

/-- Preparing makes the directory first; it ends where that fails, and else with removing. -/
theorem prepare_cases (hprepare : prepareWithin room object tree = (result, prepared)) :
    (∃ failure, result = .error failure ∧
        TreeAction.makeDirectoriesWithin room object.parent tree = (.error failure, prepared)) ∨
      ∃ made, TreeAction.makeDirectoriesWithin room object.parent tree = (.ok (), made) ∧
        TreeAction.remove object made = (result, prepared) := by
  unfold prepareWithin at hprepare
  cases hmade : TreeAction.makeDirectoriesWithin room object.parent tree with
  | mk outcome made =>
      cases outcome with
      | error failure =>
          rw [Step.bind_of_error hmade] at hprepare
          cases hprepare
          exact .inl ⟨failure, rfl, rfl⟩
      | ok =>
          rw [Step.bind_of_ok hmade] at hprepare
          exact .inr ⟨made, rfl, hprepare⟩

theorem prepare_eq_ok (hprepare : prepareWithin room object tree = (.ok (), prepared)) :
    ∃ made, TreeAction.makeDirectories object.parent tree = (.ok (), made) ∧
      TreeAction.remove object made = (.ok (), prepared) := by
  rcases prepare_cases hprepare with ⟨_, hresult, _⟩ | ⟨made, hmade, hremove⟩
  · cases hresult
  · exact ⟨made, TreeAction.makeDirectories_of_within hmade, hremove⟩

theorem nul_not_mem_of_prepare (hprepare : prepareWithin room object tree = (.ok (), prepared)) :
    '\x00' ∉ object.toText := by
  obtain ⟨made, _, hremove⟩ := prepare_eq_ok hprepare
  exact TreeAction.nul_not_mem_of_remove hremove

/-- Preparing fails for want of room, or as a step on the object path does. -/
theorem prepare_eq_error (hprepare : prepareWithin room object tree = (.error failure, prepared)) :
    (tree.TooDeep room object.parent ∧ failure = .nestedTooDeep .directories ∧ tree = prepared) ∨
      (¬ tree.TooDeep room object.parent ∧ failure.OfPath object) := by
  rcases prepare_cases hprepare with ⟨other, hresult, hmade⟩ | ⟨made, hmade, hremove⟩
  · obtain rfl := Except.error.inj hresult
    rcases TreeAction.makeDirectoriesWithin_cases hmade with ⟨hdeep, hfailure, hsame⟩ | ⟨hroom, hmade⟩
    · exact .inl ⟨hdeep, Except.error.inj hfailure, hsame⟩
    · exact .inr ⟨hroom, (TreeAction.makeDirectories_eq_error hmade).below
        fun name hname => List.dropLast_subset _ hname⟩
  · rcases TreeAction.makeDirectoriesWithin_cases hmade with ⟨_, hfailure, _⟩ | ⟨hroom, _⟩
    · cases hfailure
    · exact .inr ⟨hroom, (TreeAction.remove_eq_error hremove).1⟩

theorem ofTree_of_prepare (hprepare : prepareWithin room object tree = (.error failure, prepared)) :
    failure.OfTree := by
  rcases prepare_eq_error hprepare with ⟨_, rfl, _⟩ | ⟨_, hpath⟩
  · trivial
  · exact hpath.ofTree

theorem prepare_of_tooDeep (hdeep : tree.TooDeep room object.parent) :
    prepareWithin room object tree = (.error (.nestedTooDeep .directories), tree) :=
  Step.bind_of_error (TreeAction.makeDirectoriesWithin_of_tooDeep hdeep)

/-- A prepared place is vacant, in a directory. -/
theorem vacant_of_prepare (hnormal : object.Normal) (hapart : Apart tree object)
    (hprepare : prepareWithin room object tree = (.ok (), prepared)) :
    prepared.Vacant object ∧ prepared.isDirectory object.parent = .ok true := by
  obtain ⟨made, hmade, hremove⟩ := prepare_eq_ok hprepare
  have hparent := TreeAction.isDirectory_of_makeDirectories hmade
  obtain ⟨location, hnames, hentry, hagree, hvacant⟩ :=
    TreeAction.exists_names_of_remove hnormal hparent hremove
  have havoids := hapart made location hmade hnames
  exact ⟨⟨location, hagree.names hentry hnormal hparent havoids hnames, hvacant⟩,
    hagree.isDirectory hentry hparent havoids⟩

theorem prepare_of_isDirectory (room : Nat) (hparent : tree.isDirectory object.parent = .ok true) :
    prepareWithin room object tree = TreeAction.remove object tree := by
  unfold prepareWithin
  rw [Step.bind_of_ok (TreeAction.makeDirectoriesWithin_of_isDirectory room hparent)]

/-- At the place of an object, in a directory that is there, an earlier run has left a file or a link. -/
structure Stale (tree : FileTree) (object : Path) (place : Location) : Prop where
  names : tree.Names object place
  entry : ∃ entry, tree.get? place = some entry ∧ entry ≠ .directory
  parent : tree.isDirectory object.parent = .ok true

variable {place : Location}

theorem Stale.get?_ne_directory (hstale : Stale tree object place) :
    tree.get? place ≠ some .directory := by
  obtain ⟨entry, hentry, hne⟩ := hstale.entry
  rw [hentry]
  exact fun heq => hne (Option.some.inj heq)

theorem Stale.get?_erase (hstale : Stale tree object place) :
    (tree.erase place).get? place = none := by
  refine FileTree.get?_erase_self tree ?_
  rintro rfl
  exact hstale.get?_ne_directory rfl

/-- A stale object is not there after preparation, and where nothing is, preparation changes nothing. -/
theorem prepare_stale (hnormal : object.Normal) (hapart : Apart tree object)
    (hstale : Stale tree object place) :
    prepare object tree = (.ok (), tree.erase place) ∧
      prepare object (tree.erase place) = (.ok (), tree.erase place) := by
  have havoids := hapart tree place (TreeAction.makeDirectories_of_isDirectory hstale.parent)
    hstale.names
  have hagree := FileTree.agreeOff_erase tree place
  have hsame := hagree.names hstale.get?_ne_directory hnormal hstale.parent havoids hstale.names
  have hstill := hagree.isDirectory hstale.get?_ne_directory hstale.parent havoids
  obtain ⟨entry, hentry, hne⟩ := hstale.entry
  unfold prepare
  constructor
  · rw [prepare_of_isDirectory _ hstale.parent, TreeAction.remove_of_entry hstale.names hentry hne]
  · rw [prepare_of_isDirectory _ hstill]
    exact TreeAction.remove_of_vacant ⟨place, hsame, hstale.get?_erase⟩

/-- Preparing takes an entry away only where the object path stands, and changes none. -/
theorem get?_of_prepare (hprepare : prepareWithin room object tree = (result, prepared))
    (hentry : tree.get? place = some entry) :
    prepared.get? place = some entry ∨
      (StandsAt tree object place ∧ entry ≠ .directory ∧ prepared.get? place = none) := by
  rcases prepare_cases hprepare with ⟨failure, _, hmade⟩ | ⟨made, hmade, hremove⟩
  · exact .inl ((TreeAction.extends_of_makeDirectories hmade).keeps place entry hentry)
  · have hstill := (TreeAction.extends_of_makeDirectories hmade).keeps place entry hentry
    refine (TreeAction.get?_of_remove hremove hstill).imp id ?_
    rintro ⟨hnames, hne, hgone⟩
    exact ⟨⟨made, TreeAction.makeDirectories_of_within hmade, hnames⟩, hne, hgone⟩

theorem get?_eq_none_of_prepare (hprepare : prepareWithin room object tree = (.ok (), prepared))
    (hstands : StandsAt tree object place) : prepared.get? place = none := by
  obtain ⟨made, hmade, hnames⟩ := hstands
  obtain ⟨again, hagain, hremove⟩ := prepare_eq_ok hprepare
  obtain rfl := (Prod.mk.inj (hmade.symm.trans hagain)).2
  exact TreeAction.get?_eq_none_of_remove hremove hnames

theorem get?_directory_of_prepare (hprepare : prepareWithin room object tree = (result, prepared))
    (hentry : tree.get? place = some .directory) : prepared.get? place = some .directory := by
  rcases get?_of_prepare hprepare hentry with hkept | ⟨_, hne, _⟩
  · exact hkept
  · exact absurd rfl hne

end ObjectFile

end AsmLens
