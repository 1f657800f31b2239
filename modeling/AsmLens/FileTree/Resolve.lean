import AsmLens.FileTree.Files

namespace AsmLens.FileTree

/-- How far a path could be followed: to its end, to a name with a NUL byte, to a link that leads back to
itself, where the text of that link's path and of all that was left to follow is kept as it is, or to one
that there is no room to open inside the others. -/
inductive Resolution where
  | reached (path : Path)
  | refused
  | looped (text : Text)
  | nestedTooDeep
  deriving DecidableEq, Repr

/-- The location of a path that leads through no link. -/
def locationOf (tree : FileTree) (path : Path) : Location :=
  path.names.foldl (fun here (name : Text) => if name = ".." then here.tail else name :: here)
    (if path.root = .relative then tree.workingDirectory else [])

/-- The target of the link at a path that leads through no other. -/
def target? (tree : FileTree) (path : Path) : Option Text :=
  if pathLimit < path.toText.byteLength then
    none
  else
    match tree.get? (tree.locationOf path) with
    | some (.link target) => some target
    | _ => none

/-- Where a text starts that is read at some path. -/
def start (path : Path) (text : Text) : Path :=
  if isAbsolute text then ⟨.single, []⟩ else path

/-- One text behind another, with a slash between them. One that starts with a slash stands alone. -/
def attach (text rest : Text) : Text :=
  if isAbsolute rest then rest
  else if text.getLast? = some '/' then text ++ rest
  else text ++ "/" ++ rest

/-- The links that have been met, the last one first, and where they lead. A link whose own target is
still being followed leads nowhere yet. -/
abbrev Links := List (Path × Option Path)

/-- Follows names where absent ones count as they are and two dots take the last name away. No link is
followed twice. -/
def resolveWith (tree : FileTree) (follow : Links → Path → List Text → Resolution × Links) :
    Links → Path → List Text → Resolution × Links
  | links, here, [] => (.reached here, links)
  | links, here, name :: rest =>
      if name = "" ∨ name = "." then resolveWith tree follow links here rest
      else if name = ".." then resolveWith tree follow links here.up rest
      else if name.contains '\x00' then (.refused, links)
      else
        let there := here.down name
        match tree.target? there with
        | none => resolveWith tree follow links there rest
        | some target =>
            match links.find? fun link => link.1 = there with
            | some (_, some path) => resolveWith tree follow links path rest
            | some (_, none) => (.looped (attach there.toText (Text.join "/" rest)), links)
            | none =>
                match follow ((there, none) :: links) (start here target) (Text.cut '/' target) with
                | (.reached path, links) =>
                    resolveWith tree follow ((there, some path) :: links) path rest
                | (.refused, links) => (.refused, links)
                | (.looped text, links) => (.looped (attach text (Text.join "/" rest)), links)
                | (.nestedTooDeep, links) => (.nestedTooDeep, links)

/-- Opens links inside each other, as many as there is room for. -/
def resolveFrom (tree : FileTree) : Nat → Links → Path → List Text → Resolution × Links
  | 0 => resolveWith tree fun links _ _ => (.nestedTooDeep, links)
  | room + 1 => resolveWith tree (resolveFrom tree room)

/-- The room for links inside each other that is left in a run when its source file is resolved, where six
calls are open. Reading a name takes two calls. -/
def linkRoom : Nat :=
  roomForCalls 6 2

/-- The path that a text leads to, as it is read in the working directory. -/
def follow (tree : FileTree) (text : Text) : Except Failure Path :=
  match (tree.resolveFrom linkRoom [] (start ⟨.relative, []⟩ text) (Text.cut '/' text)).1 with
  | .reached path => .ok path
  | .refused => .error .nulByte
  | .looped text => .ok (Path.ofText text)
  | .nestedTooDeep => .error (.nestedTooDeep .links)

/-- The absolute path without links that a path stands for, which need not exist. -/
def resolve (tree : FileTree) (path : Path) : Except Failure Path := do
  let directory := Path.ofText (absolute tree.workingDirectory)
  let resolved := (directory.append (← tree.follow path.toText)).collapse
  if resolved.toText.contains '\x00' then
    .error .nulByte
  else
    match tree.status resolved.toText with
    | .error .tooManyLinks => .error (.linkLoop resolved.toText)
    | _ => .ok resolved

end AsmLens.FileTree
