import AsmLens.Shell.Utility.Basic
import AsmLens.Shell.Utility.Tree
import AsmLens.Text.Octets

namespace AsmLens.Shell

/-- A place where lines of one file stand for lines of another: how many lines come before in each, and
the lines themselves. -/
structure LineChange (α : Type) where
  beforeOld : Nat
  beforeNew : Nat
  old : List α
  new : List α

namespace LineChange

/-- For each line of a file, how long the longest sequences are that the rest from there on has in common
with the rests of another file. A line counts from the last one on. -/
def tableRow {α : Type} (isSame : α → α → Bool) (line : α) (others : List α) (below : List Nat) :
    List Nat :=
  match others, below with
  | [], _ => [0]
  | other :: others, under :: below =>
      let row := tableRow isSame line others below
      (if isSame line other then below.headD 0 + 1 else max under (row.headD 0)) :: row
  | _ :: _, [] => [0]

def table {α : Type} (isSame : α → α → Bool) (old new : List α) : List (List Nat) :=
  old.foldr
    (fun line rows => tableRow isSame line new (rows.headD []) :: rows)
    [List.replicate (new.length + 1) 0]

/-- A line is added to the change that is being made. -/
def flush {α : Type} (change : LineChange α) (rest : List (LineChange α)) : List (LineChange α) :=
  if change.old.isEmpty ∧ change.new.isEmpty then rest
  else { change with old := change.old.reverse, new := change.new.reverse } :: rest

/-- The changes from one file to another. Lines that are the same stand for one another as early as they
can. As many steps are allowed, and the table of common sequences is gone through with the lines. -/
def ofLines {α : Type} (isSame : α → α → Bool) :
    Nat → LineChange α → List (List Nat) → List α → List α → List (LineChange α)
  | 0, change, _, _, _ => flush change []
  | steps + 1, change, rows, old, new =>
      match old, new with
      | [], [] => flush change []
      | line :: old, [] =>
          ofLines isSame steps { change with old := line :: change.old } rows old []
      | [], line :: new =>
          ofLines isSame steps { change with new := line :: change.new } rows [] new
      | line :: old, other :: new =>
          if isSame line other then
            let next : LineChange α :=
              ⟨change.beforeOld + change.old.length + 1, change.beforeNew + change.new.length + 1, [], []⟩
            flush change (ofLines isSame steps next (rows.tail.map List.tail) old new)
          else
            let down := ((rows.getD 1 []).headD 0)
            let right := ((rows.headD []).tail.headD 0)
            if right ≤ down then
              ofLines isSame steps { change with old := line :: change.old } rows.tail old
                (other :: new)
            else
              ofLines isSame steps { change with new := other :: change.new } (rows.map List.tail)
                (line :: old) new

/-- The changes between two files. -/
def between {α : Type} (isSame : α → α → Bool) (old new : List α) : List (LineChange α) :=
  ofLines isSame (old.length + new.length + 1) ⟨0, 0, [], []⟩ (table isSame old new) old new

end LineChange

/-- How differences are looked for and shown. -/
structure DifferenceStyle where
  ignoresCase : Bool
  ignoresBlanks : Bool
  ignoresBlankRuns : Bool
  /-- The lines around a change that are shown, where they are. -/
  context : Option Nat
  labels : List Text

namespace DifferenceStyle

/-- What counts of a line. -/
def key (style : DifferenceStyle) (line : Text) : Text :=
  let isBlank (c : Char) : Bool := " \t\r\n\x0b\x0c".toList.contains c
  let bare :=
    if style.ignoresBlanks then line.filter fun c => !isBlank c
    else if style.ignoresBlankRuns then
      Text.join [' '] (((Text.cut ' ' (line.map fun c => if isBlank c then ' ' else c)).zipIdx.filter
        fun part => part.1 ≠ [] ∨ part.2 = 0).map Prod.fst)
    else line
  if style.ignoresCase then bare.map Char.toLower else bare

/-- A line with a mark. A file that ends without a line feed is told about. -/
def marked (mark line : Text) : Text :=
  if line.getLast? = some '\n' then mark ++ line
  else mark ++ line ++ "\n\\ No newline at end of file\n"

/-- The numbers of some lines, or of the line before them if there are none. -/
def range (before count : Nat) : Text :=
  if count ≤ 1 then Text.ofNat (before + count)
  else Text.ofNat (before + 1) ++ "," ++ Text.ofNat (before + count)

def plainChange (change : LineChange Text) : Text :=
  let letter : Text := if change.old.isEmpty then ['a'] else if change.new.isEmpty then ['d'] else ['c']
  range change.beforeOld change.old.length ++ letter ++ range change.beforeNew change.new.length ++
    "\n" ++ change.old.flatMap (marked "< ") ++
    (if letter = ['c'] then "---\n".toList else []) ++ change.new.flatMap (marked "> ")

/-- Changes that are shown together, because few lines are between them. -/
def groups (context : Nat) : List (LineChange Text) → List (List (LineChange Text))
  | [] => []
  | change :: rest =>
      match groups context rest with
      | (next :: others) :: more =>
          if next.beforeOld - (change.beforeOld + change.old.length) ≤ 2 * context then
            (change :: next :: others) :: more
          else [change] :: (next :: others) :: more
      | more => [change] :: more

/-- The range of lines at the head of changes that are shown with the lines around them. -/
def unifiedRange (before count : Nat) : Text :=
  if count = 1 then Text.ofNat (before + 1)
  else if count = 0 then Text.ofNat before ++ ",0"
  else Text.ofNat (before + 1) ++ "," ++ Text.ofNat count

/-- Changes with the lines around them. -/
def unifiedGroup (context : Nat) (lines : List Text) (changes : List (LineChange Text)) : Text :=
  match changes.head?, changes.getLast? with
  | some first, some last =>
      let start := first.beforeOld - context
      let ending := min lines.length (last.beforeOld + last.old.length + context)
      let lead := first.beforeOld - start
      let startNew := first.beforeNew - lead
      let removed := (changes.map fun change => change.old.length).foldl (· + ·) 0
      let added := (changes.map fun change => change.new.length).foldl (· + ·) 0
      let count := ending - start
      let kept (low high : Nat) : Text :=
        ((lines.drop low).take (high - low)).flatMap (marked [' '])
      let (place, body) := changes.foldl
        (fun (before : Nat × Text) change =>
          (change.beforeOld + change.old.length,
            before.2 ++ kept before.1 change.beforeOld ++ change.old.flatMap (marked ['-']) ++
              change.new.flatMap (marked ['+'])))
        (start, [])
      "@@ -" ++ unifiedRange start count ++ " +" ++ unifiedRange startNew (count + added - removed) ++
        " @@\n" ++ body ++ kept place ending
  | _, _ => []

end DifferenceStyle

namespace Invocation

/-- Tells why a file cannot be compared. -/
def incomparable (invocation : Invocation) (path : Text) (errno : Errno) : Outcome :=
  .ofError (invocation.message (path ++ ": " ++ errno.text)) 2

/-- Shows how two files differ. -/
def differenceOf (invocation : Invocation) (options : Options) (style : DifferenceStyle)
    (oldPath newPath : Text) (title : Text) : Outcome :=
  let isBrief := options.has "q"
  let isAbsent (path : Text) : Bool :=
    match invocation.read path with
    | .error errno => errno = .noEntry
    | .ok _ => false
  let isNew := options.has "N" && !(isAbsent oldPath && isAbsent newPath)
  let read (path : Text) : Except Errno (List UInt8) :=
    if isNew && isAbsent path then .ok [] else invocation.read path
  match read oldPath, read newPath with
  | .error first, second =>
      let others : Outcome :=
        match second with
        | .error errno => invocation.incomparable newPath errno
        | .ok _ => {}
      (invocation.incomparable oldPath first).append others
  | .ok _, .error errno => invocation.incomparable newPath errno
  | .ok old, .ok new =>
      let isSame (first second : Text) : Bool := style.key first = style.key second
      let names := oldPath ++ " and " ++ newPath
      let bare (line : List UInt8) : List UInt8 :=
        if [13, 10].isSuffixOf line then line.take (line.length - 2) ++ [10] else line
      let lines (bytes : List UInt8) : List Text :=
        (byteLines bytes).map fun line =>
          Text.ofOctets (if options.has "strip-trailing-cr" then bare line else line)
      let isBlankChange (change : LineChange Text) : Bool :=
        (change.old ++ change.new).all fun line => line = ['\n']
      let found := if old = new then [] else LineChange.between isSame (lines old) (lines new)
      let changes := if options.has "B" then found.filter fun change => !isBlankChange change else found
      if changes.isEmpty then
        if options.has "s" then .ofText ("Files " ++ names ++ " are identical\n") else {}
      else if isBrief then { Outcome.ofText ("Files " ++ names ++ " differ\n") with status := 1 }
      else if old.contains 0 ∨ new.contains 0 then
        { Outcome.ofText ("Binary files " ++ names ++ " differ\n") with status := 1 }
      else
        let shown : Text :=
          match style.context with
          | none => changes.flatMap DifferenceStyle.plainChange
          | some context =>
              let label (index : Nat) (path : Text) : Text :=
                (style.labels[index]?).getD (path ++ "\t1970-01-01 00:00:00.000000000 +0000")
              "--- " ++ label 0 oldPath ++ "\n+++ " ++ label 1 newPath ++ "\n" ++
                (DifferenceStyle.groups context changes).flatMap
                  (DifferenceStyle.unifiedGroup context (lines old))
        { Outcome.ofBytes (Text.toOctets (title ++ shown)) with status := 1 }

/-- Shows how two directories differ, and those in them if that is asked for. As many levels are gone
down. -/
def directoryDifference (invocation : Invocation) (options : Options) (style : DifferenceStyle)
    (flags : Text) : Nat → Text → Text → Outcome
  | 0, _, _ => {}
  | levels + 1, old, new =>
      let tree := invocation.tree
      let namesOf (path : Text) : List Text :=
        match tree.locate .lookup path with
        | .ok location => namesIn tree location
        | .error _ => []
      let oldNames := namesOf old
      let newNames := namesOf new
      let all := (oldNames ++ newNames.filter fun name => !oldNames.contains name).mergeSort
        Text.precedes
      let only (path name : Text) : Outcome :=
        { Outcome.ofText ("Only in " ++ path ++ ": " ++ name ++ "\n") with status := 1 }
      all.foldl
        (fun (outcome : Outcome) name =>
          let first := pathIn old name
          let second := pathIn new name
          outcome.append <|
            if !newNames.contains name then only old name
            else if !oldNames.contains name then only new name
            else
              match isDirectory tree first, isDirectory tree second with
              | true, true =>
                  if options.has "r" then
                    directoryDifference invocation options style flags levels first second
                  else .ofText ("Common subdirectories: " ++ first ++ " and " ++ second ++ "\n")
              | false, false =>
                  invocation.differenceOf options style first second
                    ("diff " ++ flags ++ first ++ " " ++ second ++ "\n")
              | isFirst, _ =>
                  let kind (isDirectory : Bool) : Text :=
                    if isDirectory then "directory" else "regular file"
                  { Outcome.ofText ("File " ++ first ++ " is a " ++ kind isFirst ++ " while file " ++
                      second ++ " is a " ++ kind (!isFirst) ++ "\n") with status := 1 })
        {}

/-- Shows how files differ. -/
def diff (invocation : Invocation) : Effect :=
  let table := OptionForm.table <|
    "q=brief s=report-identical-files u U:=unified i=ignore-case w=ignore-all-space " ++
    "b=ignore-space-change r=recursive N=new-file a=text L:=label =normal B=ignore-blank-lines " ++
    "d=minimal =strip-trailing-cr"
  let refuse (message : Text) : Effect :=
    invocation.report (.ofError (invocation.message message ++
      invocation.message "Try 'diff --help' for more information.") 2)
  match Options.read table false {} invocation.arguments with
  | .error error => refuse error.message
  | .ok options =>
      match options.operands with
      | [] => refuse ("missing operand after '" ++ invocation.name ++ "'")
      | [only] => refuse ("missing operand after '" ++ only ++ "'")
      | _ :: _ :: extra :: _ => refuse ("extra operand '" ++ extra ++ "'")
      | [old, new] =>
          let context : Option Nat :=
            match options.value? "U" with
            | some word => some ((count? word).getD 3)
            | none => if options.has "u" then some 3 else none
          let style : DifferenceStyle := {
            ignoresCase := options.has "i"
            ignoresBlanks := options.has "w"
            ignoresBlankRuns := options.has "b"
            context
            labels := options.values "L" }
          let flags := (invocation.arguments.takeWhile fun word => word.head? = some '-').flatMap
            fun word => typed word ++ [' ']
          let tree := invocation.tree
          let outcome : Outcome :=
            match isDirectory tree old, isDirectory tree new with
            | true, true => invocation.directoryDifference options style flags 64 old new
            | true, false =>
                invocation.differenceOf options style (pathIn old (lastName new)) new []
            | false, true =>
                invocation.differenceOf options style old (pathIn new (lastName old)) []
            | false, false => invocation.differenceOf options style old new []
          invocation.reportRead [old, new] outcome

end Invocation

end AsmLens.Shell
