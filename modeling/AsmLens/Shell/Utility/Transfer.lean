import AsmLens.Shell.Utility.Names
import AsmLens.Shell.Utility.Tree

namespace AsmLens.Shell

/-- Where operands go that are copied, moved or linked. -/
structure Destination where
  sources : List Text
  target : Text
  /-- Whether the operands go into the target. -/
  isInside : Bool

namespace Destination

/-- The path that an operand gets. -/
def pathOf (destination : Destination) (source : Text) : Text :=
  if destination.isInside then pathIn destination.target (lastName source) else destination.target

end Destination

/-- A path without the slashes at its end. -/
def bareEnd (path : Text) : Text :=
  if path.all (· = '/') then path else (path.reverse.dropWhile (· = '/')).reverse

namespace Invocation

/-- The operands of a command that copies, moves or links, and its target. More than one operand asks
for a directory. -/
def destination (invocation : Invocation) (options : Options) (followsTarget : Bool)
    (single : Option Text) : Except Effect Destination :=
  let tree := invocation.tree
  let reason (path : Text) : Text :=
    match tree.status path with
    | .ok _ => Errno.notDirectory.text
    | .error errno => errno.text
  match options.value? "t", options.operands with
  | _, [] => .error (invocation.misuse "missing file operand" 1)
  | some target, sources =>
      if isDirectory tree target then .ok ⟨sources, target, true⟩
      else
        .error <| invocation.refuse
          ("target directory " ++ quotedWord target ++ ": " ++ reason target) 1
  | none, [source] =>
      match single with
      | some target => .ok ⟨[source], target, true⟩
      | none =>
          .error <| invocation.misuse
            ("missing destination file operand after " ++ quotedWord source) 1
  | none, first :: second :: rest =>
      let target := (second :: rest).getLastD second
      let sources := (first :: second :: rest).dropLast
      if options.has "T" then
        match rest with
        | [] => .ok ⟨sources, target, false⟩
        | extra :: _ => .error (invocation.misuse ("extra operand " ++ quotedWord extra) 1)
      else
        let isLink := (Condition.entryItself? tree target).any fun entry => !entry.isDirectory
        let isInside := isDirectory tree target && (followsTarget || !isLink)
        if 1 < sources.length ∧ !isInside then
          .error (invocation.refuse ("target " ++ quotedWord target ++ ": " ++ reason target) 1)
        else
          .ok ⟨sources, target, isInside⟩

/-- Does something with each operand and the path that it gets. -/
def transfer (invocation : Invocation) (options : Options) (followsTarget : Bool)
    (single : Option Text) (change : Effect → Text → Text → Effect) : Effect :=
  match invocation.destination options followsTarget single with
  | .error effect => effect
  | .ok destination =>
      invocation.each destination.sources fun effect source =>
        change effect source (destination.pathOf source)

end Invocation

/-- How files are copied. -/
structure Copying where
  isRecursive : Bool
  /-- Whether what a link leads to is copied in its place. -/
  follows : Bool
  isVerbose : Bool
  keepsExisting : Bool
  keepsNewer : Bool
  isForced : Bool
  linksSoftly : Bool

namespace Invocation

def sameFile (source target : Text) : Text :=
  quotedWord source ++ " and " ++ quotedWord target ++ " are the same file"

def overDirectory (target : Text) : Text :=
  "cannot overwrite directory " ++ quotedWord target ++ " with non-directory"

def overFile (source target : Text) : Text :=
  "cannot overwrite non-directory " ++ quotedWord target ++ " with directory " ++ quotedWord source

/-- Copies a file to a path. -/
def copyFile (invocation : Invocation) (copying : Copying) (effect : Effect) (source target : Text)
    (entry : Entry) : Effect :=
  let cannot (errno : Errno) : Effect :=
    effect.fail invocation
      ("cannot create regular file " ++ quotedWord target ++ ": " ++ errno.text)
  let told : Effect := effect.sayIf copying.isVerbose
    (quotedWord source ++ " -> " ++ quotedWord target ++ "\n")
  let tree := effect.tree
  match entry with
  | .file bytes executable =>
      if (Condition.entryItself? tree target).isSome && (tree.status target).toOption.isNone then
        told.fail invocation ("not writing through dangling symlink " ++ quotedWord target)
      else
        match tree.locate .create target with
        | .ok place =>
            match tree.get? place with
            | none => told.withTree (tree.insert place (.file bytes executable))
            | some _ =>
                match tree.writeBytes target bytes with
                | .ok tree => told.withTree tree
                | .error errno => cannot errno
        | .error .isDirectory => cannot .notDirectory
        | .error errno => cannot errno
  | entry =>
      match tree.slot? target with
      | .ok (some place) => told.withTree (tree.insert place entry)
      | .ok none => cannot .exists
      | .error errno =>
          effect.fail invocation
            ("cannot create symbolic link " ++ quotedWord target ++ ": " ++ errno.text)

/-- Copies what is at one path to another one. The outermost source and target are told, and the
location of that target; as many directories may be inside each other. -/
def copyAt (invocation : Invocation) (copying : Copying) (outermost : Text × Text) :
    Nat → Option Location → Effect → Text → Text → Effect
  | 0, _, effect, _, _ => effect
  | depth + 1, made, effect, source, target =>
      let tree := effect.tree
      let found : Except Errno Entry :=
        match (if copying.follows then none else Condition.entryItself? tree source) with
        | some entry => .ok entry
        | none => tree.status source
      match found with
      | .error errno =>
          effect.fail invocation ("cannot stat " ++ quotedWord source ++ ": " ++ errno.text)
      | .ok entry =>
          let existing := Condition.entryItself? tree target
          let existingDirectory := isDirectory tree target
          let isSame := Condition.isSameFile tree source target
          if entry.isDirectory then
            if !copying.isRecursive then
              effect.fail invocation ("-r not specified; omitting directory " ++ quotedWord source)
            else if made.isSome ∧ made = Condition.place? tree source then
              effect.fail invocation
                ("cannot copy a directory, " ++ quotedWord outermost.1 ++ ", into itself, " ++
                  quotedWord outermost.2)
            else if existing.isSome && !existingDirectory then
              effect.fail invocation (overFile source target)
            else
              let opened : Except Errno Effect :=
                if existing.isSome then .ok effect
                else
                  (tree.makeDirectory (bareEnd target)).map fun tree =>
                    (effect.withTree tree).sayIf copying.isVerbose
                      (quotedWord source ++ " -> " ++ quotedWord target ++ "\n")
              match opened with
              | .error errno =>
                  effect.fail invocation
                    ("cannot create directory " ++ quotedWord target ++ ": " ++ errno.text)
              | .ok opened =>
                  let made := made.orElse fun _ => Condition.place? opened.tree target
                  let location := (opened.tree.locate .lookup source).toOption.getD []
                  (namesIn opened.tree location).foldl
                    (fun effect name =>
                      copyAt invocation copying outermost depth made effect (pathIn source name)
                        (pathIn target name))
                    opened
          else if existingDirectory && existing.any Entry.isDirectory then
            effect.fail invocation (overDirectory target)
          else if copying.keepsExisting && existing.isSome then effect
          else if copying.keepsNewer && existing.isSome && !Condition.isNewer tree source target then
            effect
          else if copying.linksSoftly then
            if existing.isSome && !copying.isForced then
              effect.fail invocation
                ("cannot create symbolic link " ++ quotedWord target ++ " to " ++
                  quotedWord source ++ ": " ++ Errno.exists.text)
            else copyFile invocation copying effect source target (.link source)
          else if isSame && (copying.follows || existing.any (· = entry)) then
            effect.fail invocation (sameFile source target)
          else
            copyFile invocation copying effect source target entry

def cp (invocation : Invocation) : Effect :=
  invocation.reading ("a=archive b ::=backup d f=force i=interactive n=no-clobber l=link " ++
    "L=dereference P=no-dereference p ::=preserve :=no-preserve r=recursive R H " ++
    "s=symbolic-link t:=target-directory T=no-target-directory u=update v=verbose x Z =parents " ++
    "=attributes-only =remove-destination =strip-trailing-slashes ::=reflink ::=sparse") 1
    fun options =>
      let isRecursive := options.has "r" || options.has "R" || options.has "a"
      let isFollowing :=
        match options.last? ["L", "P", "d", "a", "H"] with
        | some key => key = ['L']
        | none => !isRecursive
      let copying : Copying := {
        isRecursive
        follows := isFollowing
        isVerbose := options.has "v"
        keepsExisting := options.has "n"
        keepsNewer := options.has "u"
        isForced := options.has "f"
        linksSoftly := options.has "s" }
      invocation.transfer options true none fun effect source target =>
        copyAt invocation copying (source, target) (effect.tree.entries.length + 2) none effect
          source target

/-- Moves what is at one path to another one. -/
def moveAt (invocation : Invocation) (options : Options) (effect : Effect) (source target : Text) :
    Effect :=
  let tree := effect.tree
  let cannot (reason : Text) : Effect :=
    effect.fail invocation
      ("cannot move " ++ quotedWord source ++ " to " ++ quotedWord target ++ ": " ++ reason)
  let missing (errno : Errno) : Effect :=
    effect.fail invocation ("cannot stat " ++ quotedWord source ++ ": " ++ errno.text)
  match tree.slot? (bareEnd source), Condition.entryItself? tree source with
  | .ok (some location), some entry =>
      let goal := if entry.isDirectory then bareEnd target else target
      match tree.slot? goal with
      | .error errno => cannot errno.text
      | .ok none => cannot Errno.notDirectory.text
      | .ok (some place) =>
          let existing := tree.get? place
          if existing.isSome && options.has "n" then effect
          else if place = location then effect.fail invocation (sameFile source target)
          else if entry.isDirectory && existing.any (!·.isDirectory) then
            effect.fail invocation (overFile source target)
          else if !entry.isDirectory && existing.any Entry.isDirectory then
            effect.fail invocation (overDirectory target)
          else if entry.isDirectory && location.isSuffixOf place then
            effect.fail invocation
              ("cannot move " ++ quotedWord source ++ " to a subdirectory of itself, " ++
                quotedWord target)
          else if entry.isDirectory && !(namesIn tree place).isEmpty then cannot notEmpty
          else
            (effect.withTree (moved tree location place)).sayIf (options.has "v")
              ("renamed " ++ quotedWord source ++ " -> " ++ quotedWord target ++ "\n")
  | .error errno, _ => missing errno
  | _, _ => missing .noEntry

def mv (invocation : Invocation) : Effect :=
  invocation.reading ("b f=force i=interactive n=no-clobber t:=target-directory " ++
    "T=no-target-directory u=update v=verbose Z =strip-trailing-slashes") 1 fun options =>
    invocation.transfer options true none (moveAt invocation options)

/-- The text of a link at a path that leads to another path. -/
def linkText (tree : FileTree) (isRelative : Bool) (source target : Text) : Text :=
  let whole (path : Text) : Text := (canonical tree .allButLast path).toOption.getD path
  if isRelative then relativePath (whole (directoryName target)) (whole source) else source

def linkAt (invocation : Invocation) (options : Options) (effect : Effect) (source target : Text) :
    Effect :=
  let tree := effect.tree
  let isSymbolic := options.has "s"
  let cannot (errno : Errno) : Effect :=
    let kind : Text := if isSymbolic then "symbolic link " else "hard link "
    let origin : Text :=
      if isSymbolic ∨ errno = .exists then [] else " => " ++ quotedWord source
    effect.fail invocation
      ("failed to create " ++ kind ++ quotedWord target ++ origin ++ ": " ++ errno.text)
  let entry : Except Errno Entry :=
    if isSymbolic then .ok (.link (linkText tree (options.has "r") source target))
    else
      match (if options.has "L" then none else Condition.entryItself? tree source) with
      | some entry => .ok entry
      | none => tree.status source
  match entry with
  | .error errno =>
      effect.fail invocation ("failed to access " ++ quotedWord source ++ ": " ++ errno.text)
  | .ok .directory =>
      effect.fail invocation (source ++ ": hard link not allowed for directory")
  | .ok entry =>
      match tree.slot? target with
      | .ok (some place) =>
          if (tree.get? place).any Entry.isDirectory && options.has "f" then
            effect.fail invocation (target ++ ": cannot overwrite directory")
          else if (tree.get? place).isSome && !options.has "f" then cannot .exists
          else if isSymbolic && source.isEmpty then cannot .noEntry
          else
            let sign : Text := if isSymbolic then " -> " else " => "
            (effect.withTree (tree.insert place entry)).sayIf (options.has "v")
              (quotedWord target ++ sign ++ quotedWord (shown entry source) ++ "\n")
      | .ok none => cannot .exists
      | .error errno => cannot errno
where
  shown (entry : Entry) (source : Text) : Text :=
    match entry with
    | .link text => if options.has "s" then text else source
    | _ => source

def ln (invocation : Invocation) : Effect :=
  invocation.reading ("b d f=force i=interactive L=logical n=no-dereference P=physical r=relative " ++
    "s=symbolic S:=suffix t:=target-directory T=no-target-directory v=verbose") 1 fun options =>
    invocation.transfer options (!options.has "n") (some ['.']) (linkAt invocation options)

def link (invocation : Invocation) : Effect :=
  invocation.reading "=help" 1 fun options =>
    match options.operands with
    | [] => invocation.misuse "missing operand" 1
    | [source] => invocation.misuse ("missing operand after " ++ curled source) 1
    | [source, target] =>
        let cannot (errno : Errno) : Effect :=
          invocation.refuse
            ("cannot create link " ++ quotedWord target ++ " to " ++ quotedWord source ++ ": " ++
              errno.text) 1
        match invocation.tree.status source, invocation.tree.slot? target with
        | .error errno, _ => cannot errno
        | .ok .directory, _ =>
            invocation.refuse
              ("cannot create link " ++ quotedWord target ++ " to " ++ quotedWord source ++
                ": Operation not permitted") 1
        | .ok entry, .ok (some place) =>
            if (invocation.tree.get? place).isSome then cannot .exists
            else (invocation.report {}).withTree (invocation.tree.insert place entry)
        | .ok _, .ok none => cannot .exists
        | .ok _, .error errno => cannot errno
    | _ :: _ :: extra :: _ => invocation.misuse ("extra operand " ++ curled extra) 1

end Invocation

end AsmLens.Shell
