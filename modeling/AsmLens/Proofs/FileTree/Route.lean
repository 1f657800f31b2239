import AsmLens.FileTree.Files

/-!
# The route of a path

A walk looks up one entry after another. Its route is the list of these entries, those that links lead
to included. A walk goes the same way in every tree that has the same entries on its route.
-/

namespace AsmLens.FileTree

/-- A name that an entry of a directory can have. -/
def IsEntryName (name : Text) : Prop :=
  name ≠ "." ∧ name ≠ "/" ∧ name ≠ ".." ∧ name.byteLength ≤ nameLimit

/-- How names are followed from a location: the entries that are looked up on the way, the number of
links that are still allowed at the end, and the location that is reached. -/
inductive Route (tree : FileTree) :
    Nat → Location → List Text → List Location → Nat → Location → Prop
  | arrived {links : Nat} {here : Location} : Route tree links here [] [] links here
  | stay {links left : Nat} {here there : Location} {name : Text} {rest : List Text}
      {route : List Location} (hhere : tree.get? here = some .directory)
      (hname : name = "." ∨ name = "/") (hrest : Route tree links here rest route left there) :
      Route tree links here (name :: rest) route left there
  | up {links left : Nat} {here there : Location} {rest : List Text} {route : List Location}
      (hhere : tree.get? here = some .directory)
      (hrest : Route tree links here.tail rest route left there) :
      Route tree links here (".." :: rest) route left there
  | enter {links left : Nat} {here there : Location} {name : Text} {rest : List Text}
      {route : List Location} (hhere : tree.get? here = some .directory) (hname : IsEntryName name)
      (hentry : ∀ target, tree.get? (name :: here) ≠ some (.link target))
      (hrest : Route tree links (name :: here) rest route left there) :
      Route tree links here (name :: rest) ((name :: here) :: route) left there
  | link {links left : Nat} {here there : Location} {name target : Text} {rest : List Text}
      {route : List Location} (hhere : tree.get? here = some .directory) (hname : IsEntryName name)
      (hentry : tree.get? (name :: here) = some (.link target))
      (hrest : Route tree links (origin here target) (steps target ++ rest) route left there) :
      Route tree (links + 1) here (name :: rest) ((name :: here) :: route) left there

variable {tree other : FileTree} {links left : Nat} {here there : Location} {names : List Text}
  {route : List Location}

/-! ### One step of a walk -/

section

variable {follow : Location → Text → List Text → Except Errno Location} {name : Text}
  {rest : List Text}

theorem walkWith_stay (hhere : tree.get? here = some .directory) (hname : name = "." ∨ name = "/") :
    walkWith tree .lookup follow here (name :: rest) = walkWith tree .lookup follow here rest := by
  rw [walkWith, hhere]
  simp only [if_pos hname]

theorem walkWith_up (hhere : tree.get? here = some .directory) :
    walkWith tree .lookup follow here (".." :: rest) =
      walkWith tree .lookup follow here.tail rest := by
  rw [walkWith, hhere]
  rfl

theorem walkWith_entry (hhere : tree.get? here = some .directory) (hname : IsEntryName name) :
    walkWith tree .lookup follow here (name :: rest) =
      match tree.get? (name :: here) with
      | some (.link target) => follow here target rest
      | some _ => walkWith tree .lookup follow (name :: here) rest
      | none => if rest.isEmpty then .ok (name :: here) else .error .noEntry := by
  obtain ⟨hdot, hslash, hdots, hlength⟩ := hname
  rw [walkWith, hhere]
  cases hentry : tree.get? (name :: here) with
  | none =>
      simp only [if_neg (not_or.mpr ⟨hdot, hslash⟩), if_neg hdots, reduceCtorEq, false_and, if_false,
        if_neg (Nat.not_lt.mpr hlength)]
  | some entry =>
      cases entry <;>
        simp only [if_neg (not_or.mpr ⟨hdot, hslash⟩), if_neg hdots, reduceCtorEq, false_and,
          if_false, if_neg (Nat.not_lt.mpr hlength)]

end

/-- What a walk does at a link, with some number of links still allowed. -/
def followLink (tree : FileTree) (purpose : Purpose) :
    Nat → Location → Text → List Text → Except Errno Location
  | 0 => fun _ _ _ => .error .tooManyLinks
  | links + 1 => fun here target rest =>
      walk tree purpose links (origin here target) (steps target ++ rest)

theorem walk_eq_walkWith (tree : FileTree) (purpose : Purpose) (links : Nat) :
    walk tree purpose links = walkWith tree purpose (followLink tree purpose links) := by
  cases links <;> rfl

/-! ### Routes and walks -/

/-- Nothing can be looked up at a location that is vacant. -/
theorem Route.eq_of_vacant (hroute : Route tree links here names route left there)
    (hvacant : tree.get? here = none) : names = [] ∧ there = here := by
  cases hroute with
  | arrived => exact ⟨rfl, rfl⟩
  | stay hhere => rw [hvacant] at hhere; contradiction
  | up hhere => rw [hvacant] at hhere; contradiction
  | enter hhere => rw [hvacant] at hhere; contradiction
  | link hhere => rw [hvacant] at hhere; contradiction

theorem Route.walk_eq_ok (hroute : Route tree links here names route left there) :
    walk tree .lookup links here names = .ok there := by
  induction hroute with
  | arrived =>
      rw [walk_eq_walkWith]
      rfl
  | stay hhere hname _ ih =>
      rw [walk_eq_walkWith] at ih ⊢
      rw [walkWith_stay hhere hname, ih]
  | up hhere _ ih =>
      rw [walk_eq_walkWith] at ih ⊢
      rw [walkWith_up hhere, ih]
  | @enter _ _ here _ name _ _ hhere hname hentry hrest ih =>
      rw [walk_eq_walkWith] at ih ⊢
      rw [walkWith_entry hhere hname]
      split
      · next hlink => exact absurd hlink (hentry _)
      · exact ih
      · next hvacant =>
          obtain ⟨rfl, rfl⟩ := hrest.eq_of_vacant hvacant
          rfl
  | link hhere hname hentry _ ih =>
      rw [walk_eq_walkWith, walkWith_entry hhere hname, hentry]
      exact ih

/-- A walk that ends has taken a route, if the walks behind links have. -/
theorem exists_route_of_walkWith {follow : Location → Text → List Text → Except Errno Location}
    (hfollow : ∀ {here target rest there}, follow here target rest = .ok there →
      ∃ fewer route left, links = fewer + 1 ∧
        Route tree fewer (origin here target) (steps target ++ rest) route left there)
    (hwalk : walkWith tree .lookup follow here names = .ok there) :
    ∃ route left, Route tree links here names route left there := by
  induction names generalizing here with
  | nil =>
      obtain rfl : here = there := Except.ok.inj hwalk
      exact ⟨[], links, .arrived⟩
  | cons name rest ih =>
      have hhere : tree.get? here = some .directory := by
        rw [walkWith] at hwalk
        split at hwalk
        · contradiction
        · contradiction
        · contradiction
        · assumption
      by_cases hstay : name = "." ∨ name = "/"
      · rw [walkWith_stay hhere hstay] at hwalk
        obtain ⟨route, left, hroute⟩ := ih hwalk
        exact ⟨route, left, .stay hhere hstay hroute⟩
      · by_cases hup : name = ".."
        · subst hup
          rw [walkWith_up hhere] at hwalk
          obtain ⟨route, left, hroute⟩ := ih hwalk
          exact ⟨route, left, .up hhere hroute⟩
        · by_cases hlength : name.byteLength ≤ nameLimit
          · have hname : IsEntryName name :=
              ⟨fun hdot => hstay (.inl hdot), fun hslash => hstay (.inr hslash), hup, hlength⟩
            rw [walkWith_entry hhere hname] at hwalk
            split at hwalk
            · next hlink =>
                obtain ⟨fewer, route, left, rfl, hroute⟩ := hfollow hwalk
                exact ⟨_, left, .link hhere hname hlink hroute⟩
            · next hother hentry =>
                obtain ⟨route, left, hroute⟩ := ih hwalk
                refine ⟨_, left, .enter hhere hname (fun target hlink => ?_) hroute⟩
                exact hother target (Option.some.inj (hentry.symm.trans hlink))
            · next hvacant =>
                split at hwalk
                · next hempty =>
                    obtain rfl := List.isEmpty_iff.mp hempty
                    obtain rfl : name :: here = there := Except.ok.inj hwalk
                    exact ⟨_, links, .enter hhere hname (by simp [hvacant]) .arrived⟩
                · contradiction
          · rw [walkWith, hhere] at hwalk
            simp only [if_neg hstay, if_neg hup, reduceCtorEq, false_and, if_false,
              if_pos (Nat.not_le.mp hlength)] at hwalk

theorem exists_route_of_walk (hwalk : walk tree .lookup links here names = .ok there) :
    ∃ route left, Route tree links here names route left there := by
  induction links generalizing here names there with
  | zero => exact exists_route_of_walkWith (fun hlink => by contradiction) hwalk
  | succ fewer ih =>
      refine exists_route_of_walkWith (fun hlink => ?_) hwalk
      obtain ⟨route, left, hroute⟩ := ih hlink
      exact ⟨fewer, route, left, rfl, hroute⟩

theorem walk_eq_ok_iff : walk tree .lookup links here names = .ok there ↔
    ∃ route left, Route tree links here names route left there := by
  constructor
  · exact exists_route_of_walk
  · rintro ⟨route, left, hroute⟩
    exact hroute.walk_eq_ok

/-! ### Routes one after another -/

theorem Route.append {first second : List Text} {way more : List Location} {between : Nat}
    {middle : Location} (hfirst : Route tree links here first way between middle)
    (hsecond : Route tree between middle second more left there) :
    Route tree links here (first ++ second) (way ++ more) left there := by
  induction hfirst with
  | arrived => exact hsecond
  | stay hhere hname _ ih => exact .stay hhere hname (ih hsecond)
  | up hhere _ ih => exact .up hhere (ih hsecond)
  | enter hhere hname hentry _ ih => exact .enter hhere hname hentry (ih hsecond)
  | link hhere hname hentry _ ih =>
      have hrest := ih hsecond
      rw [List.append_assoc] at hrest
      exact .link hhere hname hentry hrest

theorem Route.exists_of_append {first second : List Text}
    (hroute : Route tree links here (first ++ second) route left there) :
    ∃ way more between middle, route = way ++ more ∧
      Route tree links here first way between middle ∧
      Route tree between middle second more left there := by
  generalize hnames : first ++ second = names at hroute
  induction hroute generalizing first with
  | arrived =>
      obtain ⟨rfl, rfl⟩ := List.append_eq_nil_iff.mp hnames
      exact ⟨[], [], _, _, rfl, .arrived, .arrived⟩
  | stay hhere hname hrest ih =>
      cases first with
      | nil =>
          obtain rfl : second = _ := hnames
          exact ⟨[], _, _, _, rfl, .arrived, .stay hhere hname hrest⟩
      | cons head first =>
          obtain ⟨rfl, htail⟩ := List.cons.inj hnames
          obtain ⟨way, more, between, middle, rfl, hfirst, hsecond⟩ := ih htail
          exact ⟨way, more, between, middle, rfl, .stay hhere hname hfirst, hsecond⟩
  | up hhere hrest ih =>
      cases first with
      | nil =>
          obtain rfl : second = _ := hnames
          exact ⟨[], _, _, _, rfl, .arrived, .up hhere hrest⟩
      | cons head first =>
          obtain ⟨rfl, htail⟩ := List.cons.inj hnames
          obtain ⟨way, more, between, middle, rfl, hfirst, hsecond⟩ := ih htail
          exact ⟨way, more, between, middle, rfl, .up hhere hfirst, hsecond⟩
  | enter hhere hname hentry hrest ih =>
      cases first with
      | nil =>
          obtain rfl : second = _ := hnames
          exact ⟨[], _, _, _, rfl, .arrived, .enter hhere hname hentry hrest⟩
      | cons head first =>
          obtain ⟨rfl, htail⟩ := List.cons.inj hnames
          obtain ⟨way, more, between, middle, rfl, hfirst, hsecond⟩ := ih htail
          exact ⟨_ :: way, more, between, middle, rfl, .enter hhere hname hentry hfirst, hsecond⟩
  | @link _ _ _ _ _ target _ _ hhere hname hentry hrest ih =>
      cases first with
      | nil =>
          obtain rfl : second = _ := hnames
          exact ⟨[], _, _, _, rfl, .arrived, .link hhere hname hentry hrest⟩
      | cons head first =>
          obtain ⟨rfl, rfl⟩ := List.cons.inj hnames
          obtain ⟨way, more, between, middle, rfl, hfirst, hsecond⟩ :=
            @ih (steps target ++ first) (List.append_assoc ..)
          exact ⟨_ :: way, more, between, middle, rfl, .link hhere hname hentry hfirst, hsecond⟩

/-! ### Links on a route -/

/-- Whatever number of links is allowed, names are followed one way only. -/
theorem Route.unique {more other : Nat} {way : List Location} {elsewhere : Location}
    (hroute : Route tree links here names route left there)
    (hother : Route tree more here names way other elsewhere) : route = way ∧ there = elsewhere := by
  induction hroute generalizing more way with
  | arrived =>
      cases hother
      exact ⟨rfl, rfl⟩
  | stay _ hname _ ih =>
      cases hother with
      | stay _ _ hrest => exact ih hrest
      | up => rcases hname with hname | hname <;> cases hname
      | enter _ hproper => exact absurd hname (not_or.mpr ⟨hproper.1, hproper.2.1⟩)
      | link _ hproper => exact absurd hname (not_or.mpr ⟨hproper.1, hproper.2.1⟩)
  | up _ _ ih =>
      cases hother with
      | stay _ hname => rcases hname with hname | hname <;> cases hname
      | up _ hrest => exact ih hrest
      | enter _ hproper => exact absurd rfl hproper.2.2.1
      | link _ hproper => exact absurd rfl hproper.2.2.1
  | enter _ hproper hentry _ ih =>
      cases hother with
      | stay _ hname => exact absurd hname (not_or.mpr ⟨hproper.1, hproper.2.1⟩)
      | up => exact absurd rfl hproper.2.2.1
      | enter _ _ _ hrest =>
          obtain ⟨rfl, rfl⟩ := ih hrest
          exact ⟨rfl, rfl⟩
      | link _ _ hlink => exact absurd hlink (hentry _)
  | link _ hproper hentry _ ih =>
      cases hother with
      | stay _ hname => exact absurd hname (not_or.mpr ⟨hproper.1, hproper.2.1⟩)
      | up => exact absurd rfl hproper.2.2.1
      | enter _ _ hnone => exact absurd hentry (hnone _)
      | link _ _ hlink hrest =>
          obtain rfl := Entry.link.inj (Option.some.inj (hentry.symm.trans hlink))
          obtain ⟨rfl, rfl⟩ := ih hrest
          exact ⟨rfl, rfl⟩

/-- A route stays a route where no entry on it is another one and all directories are still there. -/
theorem Route.congr (hroute : Route tree links here names route left there)
    (hsame : ∀ location ∈ route, other.get? location = tree.get? location)
    (hkept : ∀ location, tree.get? location = some .directory →
      other.get? location = some .directory) :
    Route other links here names route left there := by
  induction hroute with
  | arrived => exact .arrived
  | stay hhere hname _ ih => exact .stay (hkept _ hhere) hname (ih hsame)
  | up hhere _ ih => exact .up (hkept _ hhere) (ih hsame)
  | enter hhere hname hentry _ ih =>
      obtain ⟨hfirst, hsame⟩ := List.forall_mem_cons.mp hsame
      refine .enter (hkept _ hhere) hname ?_ (ih hsame)
      rw [hfirst]
      exact hentry
  | link hhere hname hentry _ ih =>
      obtain ⟨hfirst, hsame⟩ := List.forall_mem_cons.mp hsame
      exact .link (hkept _ hhere) hname (hfirst.trans hentry) (ih hsame)

/-- On a route that ends at an entry, no location is vacant. -/
theorem Route.get?_ne_none (hroute : Route tree links here names route left there)
    (hthere : tree.get? there ≠ none) : ∀ location ∈ route, tree.get? location ≠ none := by
  induction hroute with
  | arrived => simp
  | stay _ _ _ ih => exact ih hthere
  | up _ _ ih => exact ih hthere
  | enter _ _ _ hrest ih =>
      refine List.forall_mem_cons.mpr ⟨fun hvacant => ?_, ih hthere⟩
      obtain ⟨_, rfl⟩ := hrest.eq_of_vacant hvacant
      exact hthere hvacant
  | link _ _ hentry _ ih =>
      refine List.forall_mem_cons.mpr ⟨?_, ih hthere⟩
      rw [hentry]
      exact Option.some_ne_none _

end AsmLens.FileTree
