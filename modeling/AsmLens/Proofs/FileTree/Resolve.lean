import AsmLens.Proofs.FileTree.LinkPath
import AsmLens.Proofs.FileTree.Place

/-!
# Resolving a path in two trees

A resolution opens links inside each other, as many as there is room for. What a path resolves to depends
on the links that are met, and on nothing else in the tree.
-/

namespace AsmLens.FileTree

/-- What one name does in a resolution: it leads somewhere, it ends it, or it is a link to be opened. -/
inductive Turn where
  | leads (path : Path)
  | refused
  | looped (there : Path)
  | opens (there : Path) (target : Text)

def turn (tree : FileTree) (links : Links) (here : Path) (name : Text) : Turn :=
  if name = "" ∨ name = "." then .leads here
  else if name = ".." then .leads here.up
  else if name.contains '\x00' then .refused
  else
    match tree.target? (here.down name) with
    | none => .leads (here.down name)
    | some target =>
        match links.find? fun link => link.1 = here.down name with
        | some (_, some path) => .leads path
        | some (_, none) => .looped (here.down name)
        | none => .opens (here.down name) target

variable {tree other : FileTree} {follow : Links → Path → List Text → Resolution × Links}
  {links : Links} {here : Path} {name : Text} {names rest : List Text}

/-- How a resolution goes on after a link has been opened. -/
def afterOpening (tree : FileTree) (follow : Links → Path → List Text → Resolution × Links)
    (there : Path) (rest : List Text) : Resolution × Links → Resolution × Links
  | (.reached path, links) => resolveWith tree follow ((there, some path) :: links) path rest
  | (.refused, links) => (.refused, links)
  | (.looped text, links) => (.looped (attach text (Text.join "/" rest)), links)
  | (.nestedTooDeep, links) => (.nestedTooDeep, links)

theorem resolveWith_cons :
    resolveWith tree follow links here (name :: rest) =
      match tree.turn links here name with
      | .leads path => resolveWith tree follow links path rest
      | .refused => (.refused, links)
      | .looped there => (.looped (attach there.toText (Text.join "/" rest)), links)
      | .opens there target =>
          tree.afterOpening follow there rest
            (follow ((there, none) :: links) (start here target) (Text.cut '/' target)) := by
  rw [resolveWith, turn]
  split
  · rfl
  · split
    · rfl
    · split
      · rfl
      · cases htarget : tree.target? (here.down name) with
        | none => simp only [htarget]
        | some target =>
            cases hfound : links.find? fun link => link.1 = here.down name with
            | none =>
                simp only [htarget, hfound]
                rfl
            | some link =>
                obtain ⟨path, found⟩ := link
                cases found <;> simp only [htarget, hfound]

/-- The resolution of a link's target, with some room left. -/
def opening (tree : FileTree) : Nat → Links → Path → List Text → Resolution × Links
  | 0 => fun links _ _ => (.nestedTooDeep, links)
  | room + 1 => resolveFrom tree room

theorem resolveFrom_eq_resolveWith (tree : FileTree) (room : Nat) :
    resolveFrom tree room = resolveWith tree (opening tree room) := by
  cases room <;> rfl

/-! ### Links are only added -/

theorem suffix_afterOpening
    (hrest : ∀ links path, links <:+ (resolveWith tree follow links path rest).2) (there : Path)
    (result : Resolution × Links) : result.2 <:+ (tree.afterOpening follow there rest result).2 := by
  obtain ⟨resolution, between⟩ := result
  cases resolution with
  | reached path => exact (List.suffix_cons (there, some path) between).trans (hrest _ path)
  | refused => exact List.suffix_refl between
  | looped text => exact List.suffix_refl between
  | nestedTooDeep => exact List.suffix_refl between

theorem suffix_resolveWith (hfollow : ∀ links here names, links <:+ (follow links here names).2)
    (links : Links) (here : Path) (names : List Text) :
    links <:+ (resolveWith tree follow links here names).2 := by
  induction names generalizing links here with
  | nil => exact List.suffix_refl links
  | cons name rest ih =>
      rw [resolveWith_cons]
      cases tree.turn links here name with
      | leads path => exact ih links path
      | refused => exact List.suffix_refl links
      | looped there => exact List.suffix_refl links
      | opens there target =>
          have hopened := hfollow ((there, none) :: links) (start here target) (Text.cut '/' target)
          have hbetween := (List.suffix_cons (there, none) links).trans hopened
          exact hbetween.trans (suffix_afterOpening ih there _)

theorem suffix_opening (tree : FileTree) (room : Nat) (links : Links) (here : Path)
    (names : List Text) : links <:+ (opening tree room links here names).2 := by
  induction room generalizing links here names with
  | zero => exact List.suffix_refl links
  | succ room ih =>
      change links <:+ (resolveFrom tree room links here names).2
      rw [resolveFrom_eq_resolveWith]
      exact suffix_resolveWith ih links here names

/-! ### The same resolution in another tree -/

/-- None of the links is at a location. -/
def Avoids (tree : FileTree) (links : Links) (location : Location) : Prop :=
  ∀ link ∈ links, tree.locationOf link.1 ≠ location

theorem Avoids.of_suffix {before : Links} {location : Location}
    (havoids : tree.Avoids links location) (hsuffix : before <:+ links) :
    tree.Avoids before location :=
  fun link hlink => havoids link (hsuffix.subset hlink)

variable {location : Location}

theorem AgreeOff.target?_eq (hagree : AgreeOff tree other location) {path : Path}
    (hne : tree.locationOf path ≠ location) : other.target? path = tree.target? path := by
  have hlocation : other.locationOf path = tree.locationOf path := by
    rw [locationOf, locationOf, hagree.workingDirectory]
  rw [FileTree.target?, FileTree.target?, hlocation, hagree.get? _ hne]

/-- Where one tree has no link, the other's link leads on only if it has been met. -/
theorem AgreeOff.target?_eq_none (hagree : AgreeOff tree other location)
    (hnotLink : ∀ target, other.get? location ≠ some (.link target)) {path : Path}
    (heq : tree.locationOf path = location) : other.target? path = none := by
  cases htarget : other.target? path with
  | none => rfl
  | some target =>
      obtain ⟨_, hentry⟩ := get?_of_target? htarget
      have hlocation : other.locationOf path = location := by
        rw [← heq, locationOf, locationOf, hagree.workingDirectory]
      rw [hlocation] at hentry
      exact absurd hentry (hnotLink target)

theorem AgreeOff.turn_eq (hagree : AgreeOff tree other location)
    (hnotLink : ∀ target, other.get? location ≠ some (.link target))
    (havoids : tree.Avoids links location)
    (hopens : ∀ there target, tree.turn links here name = .opens there target →
      tree.locationOf there ≠ location) :
    other.turn links here name = tree.turn links here name := by
  rw [FileTree.turn, FileTree.turn]
  by_cases hstay : name = "" ∨ name = "."
  · rw [if_pos hstay, if_pos hstay]
  · rw [if_neg hstay, if_neg hstay]
    by_cases hup : name = ".."
    · rw [if_pos hup, if_pos hup]
    · rw [if_neg hup, if_neg hup]
      by_cases hnul : name.contains '\x00' = true
      · rw [if_pos hnul, if_pos hnul]
      · rw [if_neg hnul, if_neg hnul]
        by_cases heq : tree.locationOf (here.down name) = location
        · rw [hagree.target?_eq_none hnotLink heq]
          cases htarget : tree.target? (here.down name) with
          | none => rfl
          | some target =>
              -- A link at the location would have been met before, or it would be opened now.
              exfalso
              cases hfound : links.find? fun link => link.1 = here.down name with
              | some link =>
                  have hname : link.1 = here.down name := by simpa using List.find?_some hfound
                  refine havoids link (List.mem_of_find?_eq_some hfound) ?_
                  rw [hname, heq]
              | none =>
                  refine hopens (here.down name) target ?_ heq
                  rw [FileTree.turn, if_neg hstay, if_neg hup, if_neg hnul, htarget]
                  simp only [hfound]
        · rw [hagree.target?_eq heq]

section

variable {room : Nat}

/-- The links that are met while a link is open are among those that are met at all. -/
theorem Avoids.of_opens
    (havoids : tree.Avoids (resolveWith tree (opening tree room) links here (name :: rest)).2
      location)
    {there : Path} {target : Text} (hturn : tree.turn links here name = .opens there target) :
    tree.Avoids (opening tree room ((there, none) :: links) (start here target)
      (Text.cut '/' target)).2 location := by
  rw [resolveWith_cons, hturn] at havoids
  have hrest : ∀ links path, links <:+ (resolveWith tree (opening tree room) links path rest).2 :=
    fun links path => suffix_resolveWith (suffix_opening tree room) links path rest
  exact havoids.of_suffix (suffix_afterOpening hrest there _)

theorem AgreeOff.turn_eq_of_avoids (hagree : AgreeOff tree other location)
    (hnotLink : ∀ target, other.get? location ≠ some (.link target))
    (havoids : tree.Avoids (resolveWith tree (opening tree room) links here (name :: rest)).2
      location) :
    other.turn links here name = tree.turn links here name := by
  have hlinks := havoids.of_suffix (suffix_resolveWith (suffix_opening tree room) links here _)
  refine hagree.turn_eq hnotLink hlinks fun there target hturn => ?_
  have hopened := suffix_opening tree room ((there, none) :: links) (start here target)
    (Text.cut '/' target)
  exact (havoids.of_opens hturn).of_suffix hopened (there, none) List.mem_cons_self

/-- A resolution that meets no link at a location goes the same way in a tree that has no link there. -/
theorem AgreeOff.resolveFrom_eq (hagree : AgreeOff tree other location)
    (hnotLink : ∀ target, other.get? location ≠ some (.link target))
    (havoids : tree.Avoids (tree.resolveFrom room links here names).2 location) :
    other.resolveFrom room links here names = tree.resolveFrom room links here names := by
  induction room using Nat.strongRecOn generalizing links here names with
  | ind room ihRoom =>
      rw [resolveFrom_eq_resolveWith] at havoids ⊢
      rw [resolveFrom_eq_resolveWith]
      induction names generalizing links here with
      | nil => rfl
      | cons name rest ih =>
          have hturns := hagree.turn_eq_of_avoids hnotLink havoids
          have hafter := havoids
          rw [resolveWith_cons] at hafter
          rw [resolveWith_cons, resolveWith_cons, hturns]
          cases hturn : tree.turn links here name with
          | leads path =>
              rw [hturn] at hafter
              exact ih hafter
          | refused => rfl
          | looped there => rfl
          | opens there target =>
              have hsame : opening other room ((there, none) :: links) (start here target)
                  (Text.cut '/' target) =
                opening tree room ((there, none) :: links) (start here target)
                  (Text.cut '/' target) := by
                cases room with
                | zero => rfl
                | succ fewer =>
                    exact ihRoom fewer (Nat.lt_succ_self fewer) (havoids.of_opens hturn)
              rw [hturn] at hafter
              simp only at hafter
              simp only [hsame]
              generalize opening tree room ((there, none) :: links) (start here target)
                (Text.cut '/' target) = result at hafter ⊢
              obtain ⟨resolution, between⟩ := result
              cases resolution with
              | reached path => exact ih hafter
              | refused => rfl
              | looped text => rfl
              | nestedTooDeep => rfl

end

/-- The links that are met when a text is followed. -/
def linksOf (tree : FileTree) (text : Text) : Links :=
  (tree.resolveFrom linkRoom [] (start ⟨.relative, []⟩ text) (Text.cut '/' text)).2

/-- The entry at a location is a link that is met when a path is resolved. -/
def ResolvesThrough (tree : FileTree) (path : Path) (location : Location) : Prop :=
  ∃ link ∈ tree.linksOf path.toText, tree.locationOf link.1 = location

theorem AgreeOff.follow_eq (hagree : AgreeOff tree other location)
    (hnotLink : ∀ target, other.get? location ≠ some (.link target)) {path : Path}
    (havoids : ¬ tree.ResolvesThrough path location) :
    other.follow path.toText = tree.follow path.toText := by
  rw [FileTree.follow, FileTree.follow,
    hagree.resolveFrom_eq hnotLink fun link hlink heq => havoids ⟨link, hlink, heq⟩]

theorem resolve_eq_ok {path input : Path} (hinput : tree.resolve path = .ok input) :
    ∃ followed, tree.follow path.toText = .ok followed ∧
      input = ((Path.ofText (absolute tree.workingDirectory)).append followed).collapse := by
  rw [resolve] at hinput
  cases hfollow : tree.follow path.toText with
  | error failure => simp [hfollow, bind, Except.bind] at hinput
  | ok followed =>
      refine ⟨followed, rfl, ?_⟩
      simp only [hfollow, bind, Except.bind] at hinput
      split at hinput
      · cases hinput
      · split at hinput
        · cases hinput
        · exact (Except.ok.inj hinput).symm

theorem nul_not_mem_of_resolve {path input : Path} (hinput : tree.resolve path = .ok input) :
    '\x00' ∉ input.toText := by
  rw [resolve] at hinput
  cases hfollow : tree.follow path.toText with
  | error failure => simp [hfollow, bind, Except.bind] at hinput
  | ok followed =>
      simp only [hfollow, bind, Except.bind] at hinput
      split at hinput
      · cases hinput
      · next hfree =>
          split at hinput
          · cases hinput
          · obtain rfl := Except.ok.inj hinput
            simpa using hfree

/-- A path that resolves through no link at a location resolves to the same in both trees. -/
theorem AgreeOff.resolve_eq (hagree : AgreeOff tree other location)
    (hnotLink : ∀ target, other.get? location ≠ some (.link target)) {path input otherInput : Path}
    (havoids : ¬ tree.ResolvesThrough path location) (hinput : tree.resolve path = .ok input)
    (hotherInput : other.resolve path = .ok otherInput) : otherInput = input := by
  obtain ⟨followed, hfollow, rfl⟩ := resolve_eq_ok hinput
  obtain ⟨otherFollowed, hotherFollow, rfl⟩ := resolve_eq_ok hotherInput
  rw [hagree.follow_eq hnotLink havoids, hfollow] at hotherFollow
  obtain rfl := Except.ok.inj hotherFollow
  rw [hagree.workingDirectory]

end AsmLens.FileTree
