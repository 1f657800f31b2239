import AsmLens.Proofs.FileTree.Resolve

/-!
# The trail of a resolution

A resolution keeps the links that it has met, and looks up there where they lead. Its trail is what it
would do without that: a link is followed wherever it stands. A path with a trail is resolved to the end
of the trail, since a link that is still being followed cannot stand on its own trail.
-/

namespace AsmLens

theorem Path.down_inj {first second : Path} {name other : Text} (heq : first.down name = second.down other) :
    first = second ∧ name = other := by
  obtain ⟨root, names⟩ := first
  obtain ⟨otherRoot, otherNames⟩ := second
  obtain ⟨rfl, hnames⟩ := Path.mk.inj heq
  obtain ⟨rfl, hlast⟩ := List.append_inj' hnames rfl
  exact ⟨rfl, (List.cons.inj hlast).1⟩

namespace FileTree

/-- A name that leads down. -/
def IsPlainName (name : Text) : Prop :=
  name ≠ "" ∧ name ≠ "." ∧ name ≠ ".."

/-- How names are followed from a path: the links that are met on the way, how often one is followed, and
the path that is reached. -/
inductive Trail (tree : FileTree) : Path → List Text → List Path → Nat → Path → Prop
  | arrived {here : Path} : Trail tree here [] [] 0 here
  | stay {here there : Path} {name : Text} {rest : List Text} {met : List Path} {count : Nat}
      (hname : name = "" ∨ name = ".") (hrest : Trail tree here rest met count there) :
      Trail tree here (name :: rest) met count there
  | up {here there : Path} {rest : List Text} {met : List Path} {count : Nat}
      (hrest : Trail tree here.up rest met count there) : Trail tree here (".." :: rest) met count there
  | enter {here there : Path} {name : Text} {rest : List Text} {met : List Path} {count : Nat}
      (hname : IsPlainName name)
      (hentry : ∀ target, tree.get? (tree.locationOf (here.down name)) ≠ some (.link target))
      (hrest : Trail tree (here.down name) rest met count there) :
      Trail tree here (name :: rest) met count there
  | link {here between there : Path} {name target : Text} {rest : List Text} {inside met : List Path}
      {inner outer : Nat} (hname : IsPlainName name)
      (hentry : tree.get? (tree.locationOf (here.down name)) = some (.link target))
      (hfollow : Trail tree (start here target) (Text.cut '/' target) inside inner between)
      (hrest : Trail tree between rest met outer there) :
      Trail tree here (name :: rest) (here.down name :: (inside ++ met)) (inner + outer + 1) there

variable {tree : FileTree} {here there : Path} {names : List Text} {met : List Path} {count : Nat}

/-- There is only one trail. -/
theorem Trail.unique (htrail : Trail tree here names met count there) {otherMet : List Path}
    {otherCount : Nat} {otherThere : Path}
    (hother : Trail tree here names otherMet otherCount otherThere) :
    met = otherMet ∧ count = otherCount ∧ there = otherThere := by
  induction htrail generalizing otherMet otherCount otherThere with
  | arrived =>
      cases hother
      exact ⟨rfl, rfl, rfl⟩
  | stay hname _ ih =>
      cases hother with
      | stay _ hrest => exact ih hrest
      | up => rcases hname with hname | hname <;> cases hname
      | enter hplain => exact absurd hname (not_or.mpr ⟨hplain.1, hplain.2.1⟩)
      | link hplain => exact absurd hname (not_or.mpr ⟨hplain.1, hplain.2.1⟩)
  | up _ ih =>
      cases hother with
      | stay hname => rcases hname with hname | hname <;> cases hname
      | up hrest => exact ih hrest
      | enter hplain => exact absurd rfl hplain.2.2
      | link hplain => exact absurd rfl hplain.2.2
  | enter hplain hentry _ ih =>
      cases hother with
      | stay hname => exact absurd hname (not_or.mpr ⟨hplain.1, hplain.2.1⟩)
      | up => exact absurd rfl hplain.2.2
      | enter _ _ hrest => exact ih hrest
      | link _ hlink => exact absurd hlink (hentry _)
  | link hplain hentry _ _ ihFollow ihRest =>
      cases hother with
      | stay hname => exact absurd hname (not_or.mpr ⟨hplain.1, hplain.2.1⟩)
      | up => exact absurd rfl hplain.2.2
      | enter _ hnone => exact absurd hentry (hnone _)
      | link _ hlink hfollow hrest =>
          obtain rfl := Entry.link.inj (Option.some.inj (hentry.symm.trans hlink))
          obtain ⟨rfl, rfl, rfl⟩ := ihFollow hfollow
          obtain ⟨rfl, rfl, rfl⟩ := ihRest hrest
          exact ⟨rfl, rfl, rfl⟩

/-- Empty names change nothing on a trail. -/
theorem Trail.of_filter (htrail : Trail tree here (names.filter (· ≠ [])) met count there) :
    Trail tree here names met count there := by
  induction names generalizing here met count with
  | nil => exact htrail
  | cons name rest ih =>
      by_cases hempty : name = []
      · rw [List.filter_cons_of_neg (by simpa using hempty)] at htrail
        exact .stay (.inl hempty) (ih htrail)
      · rw [List.filter_cons_of_pos (by simpa using hempty)] at htrail
        cases htrail with
        | stay hname hrest => exact .stay hname (ih hrest)
        | up hrest => exact .up (ih hrest)
        | enter hname hentry hrest => exact .enter hname hentry (ih hrest)
        | link hname hentry hfollow hrest => exact .link hname hentry hfollow (ih hrest)

/-! ### What the links that have been met say -/

/-- The target of a link leads to a path, with so many links followed on the way. -/
def Leads (tree : FileTree) (link : Path) (count : Nat) (there : Path) : Prop :=
  ∃ here name target met, link = here.down name ∧
    tree.get? (tree.locationOf link) = some (.link target) ∧
    Trail tree (start here target) (Text.cut '/' target) met count there

theorem Leads.unique {link : Path} (hleads : Leads tree link count there) {otherCount : Nat}
    {otherThere : Path} (hother : Leads tree link otherCount otherThere) :
    count = otherCount ∧ there = otherThere := by
  obtain ⟨here, name, target, met, rfl, hentry, htrail⟩ := hleads
  obtain ⟨otherHere, otherName, otherTarget, otherMet, hlink, hotherEntry, hotherTrail⟩ := hother
  obtain ⟨rfl, rfl⟩ := Path.down_inj hlink
  obtain rfl := Entry.link.inj (Option.some.inj (hentry.symm.trans hotherEntry))
  exact (htrail.unique hotherTrail).2

/-- What is kept of a link: nothing, or that it has been opened, and where it leads if that is known. -/
def kept (links : Links) (link : Path) : Option (Option Path) :=
  (links.find? fun entry => entry.1 = link).map Prod.snd

theorem kept_cons_self (link : Path) (found : Option Path) (links : Links) :
    kept ((link, found) :: links) link = some found := by
  simp [kept]

theorem kept_cons_of_ne {link other : Path} (hne : other ≠ link) (found : Option Path) (links : Links) :
    kept ((link, found) :: links) other = kept links other := by
  simp [kept, hne.symm]

/-- What is kept of where links lead is true. -/
def Faithful (tree : FileTree) (links : Links) : Prop :=
  ∀ link path, kept links link = some (some path) → ∃ count, Leads tree link count path

/-- On the way to where an open link leads, at least so many links are followed. -/
def Awaits (tree : FileTree) (links : Links) (count : Nat) : Prop :=
  ∀ link, kept links link = some none → ∀ total there, Leads tree link total there → count ≤ total

theorem Awaits.of_le {links : Links} {fewer : Nat} (hawaits : Awaits tree links count)
    (hle : fewer ≤ count) : Awaits tree links fewer :=
  fun link hopen total there hleads => Nat.le_trans hle (hawaits link hopen total there hleads)

theorem Faithful.opens {links : Links} (hfaithful : Faithful tree links) (link : Path) :
    Faithful tree ((link, none) :: links) := by
  intro other path hkept
  by_cases heq : other = link
  · rw [heq, kept_cons_self] at hkept
    cases hkept
  · rw [kept_cons_of_ne heq] at hkept
    exact hfaithful other path hkept

theorem Faithful.closes {links : Links} (hfaithful : Faithful tree links) {link : Path}
    (hleads : Leads tree link count there) : Faithful tree ((link, some there) :: links) := by
  intro other path hkept
  by_cases heq : other = link
  · rw [heq, kept_cons_self] at hkept
    cases hkept
    exact heq ▸ ⟨count, hleads⟩
  · rw [kept_cons_of_ne heq] at hkept
    exact hfaithful other path hkept

theorem Awaits.opens {links : Links} (hawaits : Awaits tree links count) {link : Path}
    (hleads : Leads tree link count there) : Awaits tree ((link, none) :: links) count := by
  intro other hopen total end' htotal
  by_cases heq : other = link
  · rw [heq] at htotal
    exact Nat.le_of_eq (hleads.unique htotal).1
  · rw [kept_cons_of_ne heq] at hopen
    exact hawaits other hopen total end' htotal

/-- No link is open that was not open before. -/
def ClosesAll (before after : Links) : Prop :=
  ∀ link, kept after link = some none → kept before link = some none

theorem ClosesAll.trans {before between after : Links} (hfirst : ClosesAll before between)
    (hsecond : ClosesAll between after) : ClosesAll before after :=
  fun link hopen => hfirst link (hsecond link hopen)

/-- A link that was opened is closed once it is known where it leads. -/
theorem ClosesAll.of_opened {before between : Links} {link : Path}
    (hinside : ClosesAll ((link, none) :: before) between) (there : Path) :
    ClosesAll before ((link, some there) :: between) := by
  intro other hopen
  by_cases heq : other = link
  · rw [heq, kept_cons_self] at hopen
    cases hopen
  · rw [kept_cons_of_ne heq] at hopen
    have hbefore := hinside other hopen
    rwa [kept_cons_of_ne heq] at hbefore

theorem Awaits.of_closesAll {before after : Links} (hawaits : Awaits tree before count)
    (hcloses : ClosesAll before after) : Awaits tree after count :=
  fun link hopen => hawaits link (hcloses link hopen)

/-! ### A resolution along a trail -/

/-- The resolution comes to the end of the trail, keeps nothing that is false, and leaves no link open;
or it is refused for a NUL byte. -/
def Follows (tree : FileTree) (links : Links) (there : Path) (result : Resolution × Links) : Prop :=
  result.1 = .refused ∨
    (result.1 = .reached there ∧ Faithful tree result.2 ∧ ClosesAll links result.2)

theorem opening_succ (tree : FileTree) (room : Nat) :
    opening tree (room + 1) = resolveWith tree (opening tree room) := by
  rw [← resolveFrom_eq_resolveWith]
  rfl

/-- Once a link has been followed, the names behind it are followed from where it leads. -/
theorem Follows.afterOpening {follow : Links → Path → List Text → Resolution × Links} {links : Links}
    {link between : Path} {rest : List Text} {result : Resolution × Links}
    (hleads : Leads tree link count between)
    (hinside : Follows tree ((link, none) :: links) between result)
    (hrest : ∀ closed, Faithful tree closed → ClosesAll links closed →
      Follows tree closed there (resolveWith tree follow closed between rest)) :
    Follows tree links there (tree.afterOpening follow link rest result) := by
  obtain ⟨resolution, more⟩ := result
  rcases hinside with hrefused | ⟨hreached, hfaithful, hcloses⟩
  · obtain rfl : resolution = .refused := hrefused
    exact .inl rfl
  · obtain rfl : resolution = .reached between := hreached
    have hclosed := hcloses.of_opened between
    refine (hrest _ (hfaithful.closes hleads) hclosed).imp id fun ⟨hthere, htrue, hlast⟩ => ?_
    exact ⟨hthere, htrue, hclosed.trans hlast⟩

theorem turn_of_plain {name : Text} (hname : IsPlainName name) (hnul : name.contains '\x00' = false)
    (links : Links) :
    tree.turn links here name =
      match tree.target? (here.down name) with
      | none => .leads (here.down name)
      | some target =>
          match links.find? fun link => link.1 = here.down name with
          | some (_, some path) => .leads path
          | some (_, none) => .looped (here.down name)
          | none => .opens (here.down name) target := by
  obtain ⟨hempty, hdot, hdots⟩ := hname
  rw [turn, if_neg (not_or.mpr ⟨hempty, hdot⟩), if_neg hdots, hnul]
  rfl

theorem turn_of_nul {name : Text} (hname : IsPlainName name) (hnul : name.contains '\x00' = true)
    (links : Links) : tree.turn links here name = .refused := by
  obtain ⟨hempty, hdot, hdots⟩ := hname
  rw [turn, if_neg (not_or.mpr ⟨hempty, hdot⟩), if_neg hdots, if_pos hnul]

/-- A path is resolved along its trail. -/
theorem Trail.follows (htrail : Trail tree here names met count there) {room : Nat} {links : Links}
    (hshort : ∀ link ∈ met, link.toText.byteLength ≤ pathLimit) (hroom : count ≤ room)
    (hfaithful : Faithful tree links) (hawaits : Awaits tree links count) :
    Follows tree links there (resolveWith tree (opening tree room) links here names) := by
  induction htrail generalizing room links with
  | arrived => exact .inr ⟨rfl, hfaithful, fun link hopen => hopen⟩
  | @stay here _ name _ _ _ hname _ ih =>
      have hturn : tree.turn links here name = .leads here := by rw [turn, if_pos hname]
      rw [resolveWith_cons, hturn]
      exact ih hshort hroom hfaithful hawaits
  | @up here _ _ _ _ _ ih =>
      have hturn : tree.turn links here ".." = .leads here.up := rfl
      rw [resolveWith_cons, hturn]
      exact ih hshort hroom hfaithful hawaits
  | @enter here _ name _ _ _ hname hentry _ ih =>
      rw [resolveWith_cons]
      cases hnul : name.contains '\x00' with
      | true =>
          rw [turn_of_nul hname hnul]
          exact .inl rfl
      | false =>
          rw [turn_of_plain hname hnul, target?_eq_none hentry]
          exact ih hshort hroom hfaithful hawaits
  | @link here between there name target rest inside met inner outer hname hentry hfollow _ ihFollow
      ihRest =>
      obtain ⟨hlink, hshorts⟩ := List.forall_mem_cons.mp hshort
      obtain ⟨hshortInside, hshortMet⟩ := List.forall_mem_append.mp hshorts
      have hleads : Leads tree (here.down name) inner between :=
        ⟨here, name, target, inside, rfl, hentry, hfollow⟩
      rw [resolveWith_cons]
      cases hnul : name.contains '\x00' with
      | true =>
          rw [turn_of_nul hname hnul]
          exact .inl rfl
      | false =>
          rw [turn_of_plain hname hnul, target?_of_get? hlink hentry]
          simp only
          cases hfound : links.find? fun link => link.1 = here.down name with
          | some entry =>
              obtain ⟨first, found⟩ := entry
              have hkept : kept links (here.down name) = some found := by rw [kept, hfound]; rfl
              cases found with
              | some path =>
                  obtain ⟨total, hknown⟩ := hfaithful _ _ hkept
                  obtain ⟨_, rfl⟩ := hleads.unique hknown
                  exact ihRest hshortMet (by omega) hfaithful (hawaits.of_le (by omega))
              | none =>
                  -- The link's own trail would be longer than itself.
                  have hlonger := hawaits _ hkept _ _ hleads
                  omega
          | none =>
              obtain ⟨room, rfl⟩ : ∃ fewer, room = fewer + 1 := ⟨room - 1, by omega⟩
              have hinner : inner ≤ room := by omega
              have houter : outer ≤ room + 1 := by omega
              have hawaitsInner : Awaits tree links inner := hawaits.of_le (by omega)
              have hawaitsOuter : Awaits tree links outer := hawaits.of_le (by omega)
              have hinside := ihFollow hshortInside hinner (hfaithful.opens _)
                (hawaitsInner.opens hleads)
              rw [← opening_succ] at hinside
              refine hinside.afterOpening hleads fun closed htrue hcloses => ?_
              exact ihRest hshortMet houter htrue (hawaitsOuter.of_closesAll hcloses)

/-- A text is followed to the end of its trail, unless it is refused for a NUL byte. -/
theorem follow_of_trail {text : Text}
    (htrail : Trail tree (start ⟨.relative, []⟩ text) (Text.cut '/' text) met count there)
    (hshort : ∀ link ∈ met, link.toText.byteLength ≤ pathLimit) (hroom : count ≤ linkRoom) :
    tree.follow text = .error .nulByte ∨ tree.follow text = .ok there := by
  have hfaithful : Faithful tree [] := fun _ _ hkept => by cases hkept
  have hawaits : Awaits tree [] count := fun _ hopen => by cases hopen
  have hfollows := htrail.follows hshort hroom hfaithful hawaits
  rw [← resolveFrom_eq_resolveWith] at hfollows
  rw [follow]
  rcases hfollows with hrefused | ⟨hreached, _⟩
  · rw [hrefused]
    exact .inl rfl
  · rw [hreached]
    exact .inr rfl

end FileTree

end AsmLens
