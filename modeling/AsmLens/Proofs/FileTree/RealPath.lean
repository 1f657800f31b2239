import AsmLens.Proofs.FileTree.LastName
import AsmLens.Proofs.FileTree.Trail

/-!
# The real path of a file

What is found at the end of a path has a location, and the names of that location are a path of their own,
which leads through no link. A path resolves to it, as long as no path on the way is too long to be looked
up.
-/

namespace AsmLens

/-- On a rooted path names are followed as on its location. -/
theorem Path.foldl_follow_single (names : List Text) (here : Location) :
    names.foldl follow ⟨.single, here.reverse⟩ =
      ⟨.single, (names.foldl (fun here (name : Text) => if name = ".." then here.tail else name :: here)
        here).reverse⟩ := by
  induction names generalizing here with
  | nil => rfl
  | cons name rest ih =>
      have hstep : follow ⟨.single, here.reverse⟩ name =
          ⟨.single, (if name = ".." then here.tail else name :: here).reverse⟩ := by
        by_cases hup : name = ".."
        · rw [follow, if_pos hup, if_pos hup, up, if_neg (by simp), ← List.dropLast_reverse]
        · rw [follow, if_neg hup, if_neg hup, List.reverse_cons]
          rfl
      rw [List.foldl_cons, List.foldl_cons, hstep, ih]

namespace FileTree

/-- A name that a file can have in a directory. -/
structure IsFileName (name : Text) : Prop where
  entry : IsEntryName name
  nonempty : name ≠ []
  noSlash : '/' ∉ name

/-- Everything above a location is a directory, under a name that files can have. -/
inductive Grounded (tree : FileTree) : Location → Prop
  | root : Grounded tree []
  | inside {name : Text} {above : Location} (hname : IsFileName name)
      (hdirectory : tree.get? above = some .directory) (habove : Grounded tree above) :
      Grounded tree (name :: above)

variable {tree other : FileTree} {here there place : Location} {names : List Text} {path : Path}

theorem Grounded.isFileName (hgrounded : Grounded tree place) : ∀ name ∈ place, IsFileName name := by
  induction hgrounded with
  | root => simp
  | inside hname _ _ ih => exact List.forall_mem_cons.mpr ⟨hname, ih⟩

theorem Grounded.tail (hgrounded : Grounded tree place) : Grounded tree place.tail := by
  cases hgrounded with
  | root => exact .root
  | inside _ _ habove => exact habove

theorem Grounded.origin (hgrounded : Grounded tree place) (text : Text) :
    Grounded tree (origin place text) := by
  unfold FileTree.origin
  split
  · exact .root
  · exact hgrounded

/-- A location stays grounded where no directory has been lost. -/
theorem Grounded.mono (hgrounded : Grounded tree place)
    (hkept : ∀ location, tree.get? location = some .directory →
      other.get? location = some .directory) : Grounded other place := by
  induction hgrounded with
  | root => exact .root
  | inside hname hdirectory _ ih => exact .inside hname (hkept _ hdirectory) ih

/-! ### The path of a location -/

/-- The path of a location from the root. -/
def realPath (place : Location) : Path :=
  ⟨.single, place.reverse⟩

theorem Grounded.normal_realPath (hgrounded : Grounded tree place) : (realPath place).Normal := by
  intro name hname
  have hfile := hgrounded.isFileName name (List.mem_reverse.mp hname)
  exact ⟨hfile.nonempty, hfile.entry.1, hfile.noSlash⟩

/-- From the root to a location that holds no link, no link is met. -/
theorem Grounded.exists_route (hgrounded : Grounded tree place)
    (hentry : ∀ target, tree.get? place ≠ some (.link target)) (links : Nat) :
    ∃ route, Route tree links [] place.reverse route links place := by
  induction hgrounded with
  | root => exact ⟨[], .arrived⟩
  | @inside name above hname hdirectory _ ih =>
      obtain ⟨route, hroute⟩ := ih (by simp [hdirectory])
      rw [List.reverse_cons]
      exact ⟨_, hroute.append (.enter hdirectory hname.entry hentry .arrived)⟩

theorem Grounded.locate_absolute (hgrounded : Grounded tree place) (hplace : place ≠ [])
    (hentry : ∀ target, tree.get? place ≠ some (.link target))
    (hshort : (absolute place).byteLength ≤ pathLimit) :
    tree.locate .lookup (absolute place) = .ok place := by
  obtain ⟨route, hroute⟩ := hgrounded.exists_route hentry linkLimit
  have hsteps : steps (absolute place) = place.reverse :=
    hgrounded.normal_realPath.steps_toText (by simpa [realPath] using hplace)
  rw [locate, hsteps]
  exact walkPath_eq_ok_iff.mpr ⟨List.cons_ne_nil _ _, hshort, route, linkLimit, hroute⟩

/-- What is found at the end of the path of a location is what is there. -/
theorem Grounded.status_absolute (hgrounded : Grounded tree place) (hplace : place ≠ [])
    (hentry : ∀ target, tree.get? place ≠ some (.link target))
    (hshort : (absolute place).byteLength ≤ pathLimit) :
    tree.status (absolute place) =
      match tree.get? place with
      | some entry => .ok entry
      | none => .error .noEntry := by
  rw [status, hgrounded.locate_absolute hplace hentry hshort]
  rfl

theorem Grounded.ofText_absolute (hgrounded : Grounded tree place) :
    Path.ofText (absolute place) = realPath place :=
  hgrounded.normal_realPath.ofText_toText

theorem Grounded.foldl_reverse (hgrounded : Grounded tree place) :
    place.reverse.foldl (fun here (name : Text) => if name = ".." then here.tail else name :: here) [] =
      place := by
  induction hgrounded with
  | root => rfl
  | inside hname _ _ ih =>
      rw [List.reverse_cons, List.foldl_append, ih]
      exact if_neg hname.entry.2.2.1

/-- In the working directory, a path that leads through no link is the path of its location. -/
theorem collapse_append (hgrounded : tree.Grounded tree.workingDirectory) (hdirect : path.IsDirect) :
    ((realPath tree.workingDirectory).append path).collapse = realPath (tree.locationOf path) := by
  obtain ⟨ups, downs, hpath⟩ := hdirect
  obtain ⟨root, names⟩ := path
  cases root with
  | double => exact absurd rfl hpath.root
  | single => exact Path.foldl_follow_single names []
  | relative =>
      change (tree.workingDirectory.reverse ++ names).foldl Path.follow ⟨.single, [].reverse⟩ = _
      rw [Path.foldl_follow_single, List.foldl_append, hgrounded.foldl_reverse]
      rfl

/-! ### From routes to trails -/

/-- A step of a text: the slash at its end, or a name between slashes. -/
def IsStep (name : Text) : Prop :=
  name = "/" ∨ (name ≠ [] ∧ '/' ∉ name)

theorem isStep_of_mem_steps {text name : Text} (hname : name ∈ steps text) : IsStep name := by
  rcases List.mem_append.mp hname with hpiece | hslash
  · obtain ⟨hcut, hempty⟩ := List.mem_filter.mp hpiece
    exact .inr ⟨by simpa using hempty, Text.not_mem_of_mem_cut hcut⟩
  · split at hslash
    · exact .inl (List.mem_singleton.mp hslash)
    · contradiction

theorem isFileName_of_isStep {name : Text} (hentry : IsEntryName name) (hstep : IsStep name) :
    IsFileName name := by
  rcases hstep with hslash | ⟨hempty, hfree⟩
  · exact absurd hslash hentry.2.1
  · exact ⟨hentry, hempty, hfree⟩

/-- The steps of a text without a slash at its end are its names. -/
theorem filter_steps (text : Text) :
    (steps text).filter (· ≠ ("/" : Text)) = (Text.cut '/' text).filter (· ≠ []) := by
  have hpieces : ((Text.cut '/' text).filter (· ≠ [])).filter (· ≠ ("/" : Text)) =
      (Text.cut '/' text).filter (· ≠ []) := by
    rw [List.filter_eq_self]
    intro name hname
    have hslash := Text.not_mem_of_mem_cut (List.mem_filter.mp hname).1
    simp only [ne_eq, decide_not, Bool.not_eq_true', decide_eq_false_iff_not]
    rintro rfl
    exact hslash (by simp)
  rw [steps, List.filter_append, hpieces]
  split <;> simp

/-- A route from a grounded location leads to one. -/
theorem Route.grounded {links left : Nat} {route : List Location}
    (hroute : Route tree links here names route left there) (hsteps : ∀ name ∈ names, IsStep name)
    (hhere : tree.Grounded here) : tree.Grounded there := by
  induction hroute with
  | arrived => exact hhere
  | stay _ _ _ ih => exact ih (List.forall_mem_cons.mp hsteps).2 hhere
  | up _ _ ih => exact ih (List.forall_mem_cons.mp hsteps).2 hhere.tail
  | enter hdirectory hname _ _ ih =>
      obtain ⟨hstep, hrest⟩ := List.forall_mem_cons.mp hsteps
      exact ih hrest (.inside (isFileName_of_isStep hname hstep) hdirectory hhere)
  | @link _ _ here _ _ target _ _ _ _ _ _ ih =>
      refine ih (List.forall_mem_append.mpr ⟨fun name => isStep_of_mem_steps, ?_⟩) (hhere.origin _)
      exact (List.forall_mem_cons.mp hsteps).2

theorem locationOf_down (tree : FileTree) (path : Path) {name : Text} (hname : name ≠ "..") :
    tree.locationOf (path.down name) = name :: tree.locationOf path := by
  rw [locationOf, Path.down, List.foldl_append]
  exact if_neg hname

theorem locationOf_up (tree : FileTree) (hdirect : path.IsDirect) :
    tree.locationOf path.up = (tree.locationOf path).tail := by
  obtain ⟨ups, downs, hpath⟩ := hdirect
  by_cases hup : path.root = .relative ∧ path.names.all (· = "..")
  · rw [Path.up, if_pos hup, locationOf, Path.down, List.foldl_append]
    rfl
  · rw [Path.up, if_neg hup]
    rcases List.eq_nil_or_concat' downs with rfl | ⟨front, last, rfl⟩
    · -- Without names to go down, a path that does not lead up is the root.
      have hroot : path.root = .single := by
        cases hroot : path.root with
        | relative => exact absurd ⟨hroot, hpath.all_iff.mpr rfl⟩ hup
        | single => rfl
        | double => exact absurd hroot hpath.root
      have hnames : path.names = [] := by
        rw [hpath.names, hpath.single hroot]
        rfl
      rw [locationOf, locationOf, hroot, hnames]
      rfl
    · obtain ⟨root, names⟩ := path
      obtain rfl : names = List.replicate ups (".." : Text) ++ (front ++ [last]) := hpath.names
      have hlast : last ≠ ".." := (hpath.proper last (by simp)).2
      have hdown := locationOf_down tree ⟨root, List.replicate ups (".." : Text) ++ front⟩ hlast
      rw [Path.down, List.append_assoc] at hdown
      rw [hdown, ← List.append_assoc, List.dropLast_concat, List.tail_cons]

theorem locationOf_start (tree : FileTree) (path : Path) (text : Text) :
    tree.locationOf (start path text) = origin (tree.locationOf path) text := by
  unfold start origin
  split <;> rfl

/-- A trail leads from a path to a location, with so many links followed on the way. -/
def Reaches (tree : FileTree) (path : Path) (names : List Text) (count : Nat) (there : Location) :
    Prop :=
  ∃ met followed, Trail tree path (names.filter (· ≠ ("/" : Text))) met count followed ∧
    followed.IsDirect ∧ tree.locationOf followed = there

theorem IsFileName.isPlainName {name : Text} (hname : IsFileName name) : IsPlainName name :=
  ⟨hname.nonempty, hname.entry.1, hname.entry.2.2.1⟩

theorem filter_cons_of_isFileName {name : Text} (hname : IsFileName name) (rest : List Text) :
    (name :: rest).filter (· ≠ ("/" : Text)) = name :: rest.filter (· ≠ ("/" : Text)) :=
  List.filter_cons_of_pos (by simpa using hname.entry.2.1)

/-- Where a route leads, a trail leads too, and it takes up the links that the route does. -/
theorem Route.reaches {links left : Nat} {route : List Location}
    (hroute : Route tree links here names route left there) (hsteps : ∀ name ∈ names, IsStep name)
    (hdirect : path.IsDirect) (hpath : tree.locationOf path = here) :
    ∃ count, tree.Reaches path names count there ∧ count + left = links := by
  induction links using Nat.strongRecOn generalizing here there names route left path with
  | ind links ihLinks =>
      induction names generalizing here route path with
      | nil =>
          cases hroute
          exact ⟨0, ⟨[], path, .arrived, hdirect, hpath⟩, Nat.zero_add _⟩
      | cons name rest ih =>
          obtain ⟨hstep, hrest⟩ := List.forall_mem_cons.mp hsteps
          cases hroute with
          | stay _ hname hroute =>
              obtain ⟨count, ⟨met, followed, htrail, hfollowed⟩, hcount⟩ :=
                ih hroute hrest hdirect hpath
              refine ⟨count, ⟨met, followed, ?_, hfollowed⟩, hcount⟩
              rcases hname with rfl | rfl
              · exact .stay (.inr rfl) htrail
              · exact htrail
          | up _ hroute =>
              obtain ⟨count, ⟨met, followed, htrail, hfollowed⟩, hcount⟩ :=
                ih hroute hrest hdirect.up (by rw [locationOf_up tree hdirect, hpath])
              exact ⟨count, ⟨met, followed, .up htrail, hfollowed⟩, hcount⟩
          | enter _ hname hentry hroute =>
              have hfile := isFileName_of_isStep hname hstep
              have hplain := hfile.isPlainName
              have hdown := locationOf_down tree path hplain.2.2
              obtain ⟨count, ⟨met, followed, htrail, hfollowed⟩, hcount⟩ :=
                ih hroute hrest (hdirect.down hplain.1 hplain.2.2) (by rw [hdown, hpath])
              refine ⟨count, ⟨met, followed, ?_, hfollowed⟩, hcount⟩
              rw [filter_cons_of_isFileName hfile]
              exact .enter hplain (by rwa [hdown, hpath]) htrail
          | @link fewer _ _ _ _ target _ _ _ hname hentry hroute =>
              have hfile := isFileName_of_isStep hname hstep
              have hplain := hfile.isPlainName
              have hdown := locationOf_down tree path hplain.2.2
              obtain ⟨_, _, between, middle, _, hfirst, hsecond⟩ := hroute.exists_of_append
              obtain ⟨inner, ⟨inside, opened, hfollow, hopened, hmiddle⟩, hinner⟩ :=
                ihLinks fewer (Nat.lt_succ_self fewer) hfirst (fun _ => isStep_of_mem_steps)
                  (isDirect_start hdirect target) (by rw [locationOf_start, hpath])
              rw [filter_steps] at hfollow
              obtain ⟨outer, ⟨met, followed, htrail, hfollowed⟩, houter⟩ :=
                ihLinks between (by omega) hsecond hrest hopened hmiddle
              refine ⟨inner + outer + 1, ⟨path.down name :: (inside ++ met), followed, ?_, hfollowed⟩,
                by omega⟩
              rw [filter_cons_of_isFileName hfile]
              exact .link hplain (by rwa [hdown, hpath]) hfollow.of_filter htrail

/-! ### Resolving a path that leads to an entry -/

/-- A link is met when a path is followed. -/
def Meets (tree : FileTree) (path link : Path) : Prop :=
  ∃ met count there, link ∈ met ∧
    Trail tree (start ⟨.relative, []⟩ path.toText) (Text.cut '/' path.toText) met count there

/-- A path that leads somewhere resolves to the path of the location it leads to. -/
theorem resolve_eq_realPath (hgrounded : tree.Grounded tree.workingDirectory)
    (hshort : ∀ link, tree.Meets path link → link.toText.byteLength ≤ pathLimit)
    (hlocate : tree.locate .lookup path.toText = .ok place) {input : Path}
    (hinput : tree.resolve path = .ok input) : tree.Grounded place ∧ input = realPath place := by
  obtain ⟨_, _, route, left, hroute⟩ := walkPath_eq_ok_iff.mp hlocate
  have hsteps : ∀ name ∈ steps path.toText, IsStep name := fun _ => isStep_of_mem_steps
  have hstart : (start ⟨.relative, []⟩ path.toText).IsDirect :=
    isDirect_start (Path.isDirect_of_root (by simp)) path.toText
  obtain ⟨count, ⟨met, reached, htrail, hdirect, hplace⟩, hcount⟩ :=
    hroute.reaches hsteps hstart (locationOf_start tree ⟨.relative, []⟩ path.toText)
  rw [filter_steps] at htrail
  have hwhole := htrail.of_filter
  have hroom : count ≤ linkRoom := by
    have hlinks : linkLimit ≤ linkRoom := by decide
    omega
  obtain ⟨followed, hfollow, rfl⟩ := resolve_eq_ok hinput
  refine ⟨hroute.grounded hsteps (hgrounded.origin _), ?_⟩
  rcases follow_of_trail hwhole (fun link hlink => hshort link ⟨met, count, reached, hlink, hwhole⟩)
    hroom with hrefused | hreached
  · rw [hrefused] at hfollow
    cases hfollow
  · rw [hreached] at hfollow
    obtain rfl := Except.ok.inj hfollow
    rw [hgrounded.ofText_absolute, collapse_append hgrounded hdirect, hplace]

end FileTree

end AsmLens
