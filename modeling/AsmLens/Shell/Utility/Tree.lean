import AsmLens.Shell.Condition
import AsmLens.Shell.Utility.Basic
import AsmLens.Shell.Utility.Mode

namespace AsmLens.Shell

/-- The names in a directory in the order of their characters. -/
def namesIn (tree : FileTree) (directory : Location) : List Text :=
  (tree.entries.filterMap fun entry =>
    match entry.1 with
    | name :: above => if above = directory then some name else none
    | [] => none).mergeSort Text.precedes

/-- The tree without a location and all that is below it. -/
def without (tree : FileTree) (location : Location) : FileTree :=
  { tree with entries := tree.entries.filter fun entry => !location.isSuffixOf entry.1 }

/-- The tree in which a location and all that is below it are at another location instead. -/
def moved (tree : FileTree) (source target : Location) : FileTree :=
  let copies := tree.entries.filterMap fun entry =>
    if source.isSuffixOf entry.1 then
      some (entry.1.take (entry.1.length - source.length) ++ target, entry.2)
    else
      none
  { tree with entries := copies ++ (without (without tree target) source).entries }

/-- The path of a name in a directory. -/
def pathIn (directory name : Text) : Text :=
  if directory.getLast? = some '/' then directory ++ name else directory ++ "/" ++ name

def isDirectory (tree : FileTree) (path : Text) : Bool :=
  (tree.status path).toOption.any Entry.isDirectory

namespace Effect

def say (effect : Effect) (text : Text) : Effect :=
  { effect with outcome := effect.outcome.append (.ofText text) }

def sayIf (effect : Effect) (isAsked : Bool) (text : Text) : Effect :=
  if isAsked then effect.say text else effect

def withTree (effect : Effect) (tree : FileTree) : Effect :=
  { effect with tree }

def fail (effect : Effect) (invocation : Invocation) (text : Text) : Effect :=
  { effect with outcome := effect.outcome.append (.ofError (invocation.message text) 1) }

/-- Asks a question and reads a line of the input. The answer is yes if it starts like that. -/
def ask (effect : Effect) (question : Text) : Bool × Effect :=
  let answer := effect.input.takeWhile (· ≠ 10)
  (answer.head?.any fun byte => byte = 121 || byte = 89,
    { effect with
      input := effect.input.drop (answer.length + 1)
      outcome := effect.outcome.append (.ofError question 0) })

end Effect

namespace Invocation

/-- Does something for each word in turn. -/
def each (invocation : Invocation) (words : List Text) (change : Effect → Text → Effect) : Effect :=
  words.foldl change (invocation.report {})

/-- A directory and those above it on its path, the innermost one first. -/
def ancestors (path : Text) : List Text :=
  let names := (Text.cut '/' path).filter (· ≠ [])
  let root : Text := if path.head? = some '/' then "/" else []
  (List.range names.length).map fun count =>
    if count = 0 then path else root ++ Text.join "/" (names.take (names.length - count))

end Invocation

namespace Invocation

/-- Makes the directories on a path that are absent, the outermost one first. -/
def makeAncestors (invocation : Invocation) (isVerbose : Bool) (effect : Effect) (path : Text) :
    Effect :=
  ((ancestors path).reverse.foldl
    (fun (state : Effect × Bool) shown =>
      if !state.2 || isDirectory state.1.tree shown then state
      else
        match state.1.tree.makeDirectory shown with
        | .ok tree =>
            ((state.1.withTree tree).sayIf isVerbose
              (invocation.message ("created directory " ++ quotedWord shown)), true)
        | .error errno =>
            let isWhole := (ancestors shown).length = (ancestors path).length
            let errno := if errno = .exists ∧ !isWhole then .notDirectory else errno
            (state.1.fail invocation
              ("cannot create directory " ++ curled shown ++ ": " ++ errno.text), false))
    (effect, true)).1

def mkdir (invocation : Invocation) : Effect :=
  invocation.reading "m:=mode p=parents v=verbose Z" 1 fun options =>
    if options.operands.isEmpty then invocation.misuse "missing operand" 1
    else
      match options.value? "m" with
      | some mode =>
          if (ModeChange.ofText? mode).isNone then
            invocation.refuse ("invalid mode " ++ curled mode) 1
          else make options
      | none => make options
where
  make (options : Options) : Effect :=
    invocation.each options.operands fun effect path =>
      let isVerbose := options.has "v"
      if options.has "p" then invocation.makeAncestors isVerbose effect path
      else
        match effect.tree.makeDirectory path with
        | .ok tree =>
            (effect.withTree tree).sayIf isVerbose
              (invocation.message ("created directory " ++ quotedWord path))
        | .error errno =>
            effect.fail invocation ("cannot create directory " ++ curled path ++ ": " ++ errno.text)

def notEmpty : Text :=
  "Directory not empty"

/-- The tree without an empty directory, or why there is none at the path. -/
def withoutEmpty (tree : FileTree) (path : Text) : Except Text FileTree :=
  match Condition.entryItself? tree path, tree.locate .lookup path with
  | some .directory, .ok location =>
      if (namesIn tree location).isEmpty then .ok (tree.erase location) else .error notEmpty
  | some _, _ => .error Errno.notDirectory.text
  | none, .error errno => .error errno.text
  | none, .ok _ => .error Errno.noEntry.text

def rmdir (invocation : Invocation) : Effect :=
  invocation.reading "p=parents v=verbose =ignore-fail-on-non-empty" 1 fun options =>
    if options.operands.isEmpty then invocation.misuse "missing operand" 1
    else
      invocation.each options.operands fun effect path =>
        let paths := if options.has "p" then ancestors path else [path]
        (paths.foldl
          (fun (state : Effect × Bool) shown =>
            if !state.2 then state
            else
              let effect := state.1.sayIf (options.has "v")
                (invocation.message ("removing directory, " ++ quotedWord shown))
              match withoutEmpty effect.tree shown with
              | .ok tree => (effect.withTree tree, true)
              | .error reason =>
                  if reason = notEmpty ∧ options.has "ignore-fail-on-non-empty" then (effect, false)
                  else
                    let kind : Text := if shown = path then [] else "directory "
                    (effect.fail invocation
                      ("failed to remove " ++ kind ++ quotedWord shown ++ ": " ++ reason), false))
          (effect, true)).1

/-- How files are removed. -/
structure Removal where
  isForced : Bool
  isRecursive : Bool
  removesEmpty : Bool
  asks : Bool
  isVerbose : Bool

/-- What a question calls an entry. -/
def kindOf : Entry → Text
  | .file bytes _ => if bytes.isEmpty then "regular empty file" else "regular file"
  | .directory => "directory"
  | .link _ => "symbolic link"

/-- Whether a path leads to a directory by a link with a slash behind it. -/
def isThroughLink (tree : FileTree) (path : Text) : Bool :=
  let bare := (path.reverse.dropWhile (· = '/')).reverse
  path.getLast? = some '/' && (Condition.entryItself? tree bare).any fun entry => !entry.isDirectory

/-- Removes what is at a path. As many directories may be inside each other. -/
def removeAt (invocation : Invocation) (removal : Removal) : Nat → Effect → Text → Effect
  | 0, effect, _ => effect
  | depth + 1, effect, path =>
      let cannot (reason : Text) : Effect :=
        effect.fail invocation ("cannot remove " ++ quotedWord path ++ ": " ++ reason)
      let question (verb : Text) (entry : Entry) : Text :=
        invocation.name ++ ": " ++ verb ++ " " ++ kindOf entry ++ " " ++ quotedWord path ++ "? "
      match effect.tree.unlink path, Condition.entryItself? effect.tree path with
      | .ok tree, some entry =>
          let (agrees, asked) :=
            if removal.asks then effect.ask (question "remove" entry) else (true, effect)
          if agrees then
            (asked.withTree tree).sayIf removal.isVerbose ("removed " ++ quotedWord path ++ "\n")
          else asked
      | .ok tree, none => effect.withTree tree
      | .error .isDirectory, some entry =>
          match effect.tree.locate .lookup path with
          | .ok location =>
              let names := namesIn effect.tree location
              if removal.isRecursive && isThroughLink effect.tree path then
                cannot Errno.notDirectory.text
              else if removal.isRecursive || names.isEmpty && removal.removesEmpty then
                let (agrees, asked) :=
                  if removal.asks && !names.isEmpty then effect.ask (question "descend into" entry)
                  else (true, effect)
                if !agrees then asked
                else
                  let emptied := names.foldl
                    (fun effect name => removeAt invocation removal depth effect (pathIn path name))
                    asked
                  let (agrees, asked) :=
                    if removal.asks then emptied.ask (question "remove" entry) else (true, emptied)
                  if !agrees then asked
                  else if !(namesIn asked.tree location).isEmpty then
                    if removal.asks then
                      asked.fail invocation
                        ("cannot remove " ++ quotedWord path ++ ": " ++ notEmpty)
                    else asked
                  else
                    (asked.withTree (asked.tree.erase location)).sayIf removal.isVerbose
                      ("removed directory " ++ quotedWord path ++ "\n")
              else if removal.removesEmpty && !names.isEmpty then cannot notEmpty
              else cannot Errno.isDirectory.text
          | .error errno => cannot errno.text
      | .error errno, _ =>
          if removal.isForced && errno.meansAbsent then effect else cannot errno.text

def rm (invocation : Invocation) : Effect :=
  invocation.reading ("f=force i I r=recursive R v=verbose d=dir ::=interactive =one-file-system " ++
    "=preserve-root =no-preserve-root") 1 fun options =>
    if options.operands.isEmpty ∧ !options.has "f" then invocation.misuse "missing operand" 1
    else
      let removal : Removal := {
        isForced := options.has "f"
        isRecursive := options.has "r" || options.has "R"
        removesEmpty := options.has "d"
        asks := options.last? ["i", "f"] = some ['i']
        isVerbose := options.has "v" }
      invocation.each options.operands fun effect path =>
        let last := ((Text.cut '/' path).filter (· ≠ [])).getLast?
        if removal.isRecursive && (last = some ['.'] || last = some ['.', '.']) then
          effect.fail invocation
            ("refusing to remove '.' or '..' directory: skipping " ++ quotedWord path)
        else
          removeAt invocation removal (effect.tree.entries.length + 1) effect path

/-- The tree with an entry at a location as the last one written. -/
def refreshed (tree : FileTree) (path : Text) : FileTree :=
  match tree.locate .lookup path with
  | .ok location =>
      match tree.get? location with
      | some entry => if location.isEmpty then tree else tree.insert location entry
      | none => tree
  | .error _ => tree

def touch (invocation : Invocation) : Effect :=
  invocation.reading "a c=no-create d:=date f h=no-dereference m r:=reference t: :=time" 1
    fun options =>
      if options.operands.isEmpty then invocation.misuse "missing file operand" 1
      else
        match options.value? "r" with
        | some path =>
            match invocation.tree.status path with
            | .ok _ => make options
            | .error errno =>
                invocation.refuse
                  ("failed to get attributes of " ++ quotedWord path ++ ": " ++ errno.text) 1
        | none => make options
where
  make (options : Options) : Effect :=
    invocation.each options.operands fun effect path =>
      let cannot (errno : Errno) : Effect :=
        effect.fail invocation ("cannot touch " ++ quotedWord path ++ ": " ++ errno.text)
      let isDated := options.has "d" || options.has "r" || options.has "t"
      match effect.tree.status path with
      | .ok _ => if isDated then effect else effect.withTree (refreshed effect.tree path)
      | .error errno =>
          if options.has "c" then if errno = .noEntry then effect else cannot errno
          else
            match effect.tree.writeBytes path [] with
            | .ok tree => effect.withTree tree
            | .error .isDirectory =>
                effect.fail invocation
                  ("setting times of " ++ quotedWord path ++ ": " ++ errno.text)
            | .error errno => cannot errno

/-- Changes the permissions of what is at a path, and below it if that is asked for. As many
directories may be inside each other. -/
def changeMode (invocation : Invocation) (options : Options) (change : ModeChange) :
    Nat → Effect → Text → Effect
  | 0, effect, _ => effect
  | depth + 1, effect, path =>
      match effect.tree.locate .lookup path, effect.tree.status path with
      | .ok location, .ok entry =>
          let before := permissions entry
          let after := change entry.isDirectory before
          let shown (mode : Nat) : Text :=
            let digits := Nat.toDigits 8 mode
            List.replicate (4 - digits.length) '0' ++ digits ++ " (" ++ permissionLetters mode ++ ")"
          let saysSo := options.has "v" || options.has "c" && before ≠ after
          let line : Text := "mode of " ++ quotedWord path ++
            (if before = after then " retained as " ++ shown after
              else " changed from " ++ shown before ++ " to " ++ shown after) ++ "\n"
          let changed := match entry with
            | .file bytes _ =>
                effect.withTree (replaced effect.tree location (.file bytes (after &&& 0o111 ≠ 0)))
            | _ => effect
          let told := changed.sayIf saysSo line
          if options.has "R" && entry.isDirectory then
            (namesIn told.tree location).foldl
              (fun effect name => changeMode invocation options change depth effect (pathIn path name))
              told
          else told
      | _, .error errno | .error errno, _ =>
          if options.has "f" then { effect with outcome := effect.outcome.append (.ofStatus 1) }
          else if (Condition.entryItself? effect.tree path).isSome then
            effect.fail invocation ("cannot operate on dangling symlink " ++ quotedWord path)
          else
            effect.fail invocation ("cannot access " ++ quotedWord path ++ ": " ++ errno.text)
where
  /-- The tree with another entry at a location, which does not count as written. -/
  replaced (tree : FileTree) (location : Location) (entry : Entry) : FileTree :=
    { tree with
      entries := tree.entries.map fun old => if old.1 = location then (location, entry) else old }

/-- Whether a word is a mode that takes permissions away, not options. -/
def isModeWord (word : Text) : Bool :=
  match word with
  | '-' :: c :: _ => "rwxXstugo".toList.contains c
  | _ => false

def chmod (invocation : Invocation) : Effect :=
  let modes := invocation.arguments.filter isModeWord
  let others := invocation.arguments.filter (!isModeWord ·)
  { invocation with arguments := others }.reading ("c=changes f=silent,quiet R=recursive v=verbose " ++
    ":=reference =preserve-root =no-preserve-root") 1 fun options =>
      let changeAll (change : ModeChange) (files : List Text) : Effect :=
        invocation.each files
          (changeMode invocation options change (invocation.tree.entries.length + 1))
      match options.value? "reference" with
      | some path =>
          match invocation.tree.status path with
          | .ok entry => changeAll (fun _ _ => permissions entry) options.operands
          | .error errno =>
              invocation.refuse
                ("failed to get attributes of " ++ quotedWord path ++ ": " ++ errno.text) 1
      | none =>
          let words := (if modes.isEmpty then [] else [Text.join "," modes]) ++ options.operands
          match words with
          | [] => invocation.misuse "missing operand" 1
          | [mode] => invocation.misuse ("missing operand after " ++ curled mode) 1
          | mode :: files =>
              match ModeChange.ofText? mode with
              | none => invocation.misuse ("invalid mode: " ++ curled mode) 1
              | some change => changeAll change files

def unlink (invocation : Invocation) : Effect :=
  invocation.reading "=help" 1 fun options =>
    match options.operands with
    | [] => invocation.misuse "missing operand" 1
    | [path] =>
        match invocation.tree.unlink path with
        | .ok tree => (invocation.report {}).withTree tree
        | .error errno =>
            invocation.refuse ("cannot unlink " ++ quotedWord path ++ ": " ++ errno.text) 1
    | _ :: extra :: _ => invocation.misuse ("extra operand " ++ curled extra) 1

/-- What a size makes of the size of a file: a number with a unit, which may be added, taken away, or be
a bound. -/
def resize? (word : Text) : Option (Nat → Nat) :=
  let (sign, rest) : Char × Text :=
    match word with
    | c :: rest => if "+-<>/%".toList.contains c then (c, rest) else ('=', word)
    | [] => ('=', [])
  let digits := rest.takeWhile Char.isDigit
  let units : List (Text × Nat) := [
    ([], 1), ("K", 1024), ("k", 1024), ("M", 1048576), ("KB", 1000), ("MB", 1000000),
    ("KiB", 1024), ("MiB", 1048576)]
  match count? digits, units.find? fun entry => entry.1 = rest.drop digits.length with
  | some count, some (_, unit) =>
      let amount := count * unit
      some fun size =>
        match sign with
        | '+' => size + amount
        | '-' => size - amount
        | '<' => min size amount
        | '>' => max size amount
        | '/' => if amount = 0 then size else size / amount * amount
        | '%' => if amount = 0 then size else (size + amount - 1) / amount * amount
        | _ => amount
  | _, _ => none

/-- How many bytes `truncate` makes of a file. -/
def sizeLimit : Nat := 1048576

def truncate (invocation : Invocation) : Effect :=
  invocation.reading "c=no-create o=io-blocks r:=reference s:=size" 1 fun options =>
    let resize (change : Nat → Nat) : Effect :=
      if options.operands.isEmpty then invocation.misuse "missing file operand" 1
      else
        invocation.each options.operands fun effect path =>
          let before := (effect.tree.readBytes path).toOption
          let bytes := before.getD []
          let size := min (change bytes.length) sizeLimit
          if options.has "c" ∧ before.isNone then effect
          else
            match effect.tree.writeBytes path
                (bytes.take size ++ List.replicate (size - bytes.length) 0) with
            | .ok tree => effect.withTree tree
            | .error errno =>
                effect.fail invocation
                  ("cannot open " ++ quotedWord path ++ " for writing: " ++ errno.text)
    match options.value? "s", options.value? "r" with
    | some word, _ =>
        match resize? word with
        | some change => resize change
        | none => invocation.refuse ("Invalid number: " ++ curled word) 1
    | none, some path =>
        match invocation.tree.readBytes path with
        | .ok bytes => resize fun _ => bytes.length
        | .error errno =>
            invocation.refuse ("cannot stat " ++ quotedWord path ++ ": " ++ errno.text) 1
    | none, none =>
        invocation.misuse "you must specify either ‘--size’ or ‘--reference’" 1

end Invocation

end AsmLens.Shell
