import AsmLens.Shell.Pattern
import AsmLens.Shell.Real
import AsmLens.Shell.Utility.Names
import AsmLens.Shell.Utility.Tree

namespace AsmLens.Shell

/-- How the entries of directories are listed. -/
structure ListingStyle where
  options : Options

namespace ListingStyle

def isLong (style : ListingStyle) : Bool :=
  ["l", "n", "g", "o"].any fun (key : String) => style.options.has key

/-- The kind of sign that is put behind names. -/
def indicator? (style : ListingStyle) : Option Text :=
  style.options.last? ["F", "p", "indicator-style"]

/-- A name with the escapes of a string. -/
def escapedName (quote : Char) (name : Text) : Text :=
  name.flatMap fun c =>
    if isControl c then controlEscape c else if c = '\\' ∨ c = quote then ['\\', c] else [c]

def shownName (style : ListingStyle) (name : Text) : Text :=
  if style.options.has "Q" then "\"" ++ escapedName '"' name ++ "\""
  else if style.options.has "b" then escapedName ' ' name
  else if style.options.has "q" then name.map fun c => if isControl c then '?' else c
  else name

/-- The sign behind the name of an entry. -/
def sign (style : ListingStyle) (entry : Entry) : Text :=
  match style.indicator?, entry with
  | none, _ => []
  | some _, .directory => "/"
  | some key, .file _ executable => if key = ['F'] ∧ executable then "*" else []
  | some key, .link _ => if key = ['F'] ∧ !style.isLong then "@" else []

/-- How many blocks of a thousand bytes an entry takes. -/
def blocks (entry : Entry) : Nat :=
  match entry with
  | .file bytes _ => (bytes.length + 4095) / 4096 * 4
  | .directory => 4
  | .link _ => 0

/-- A size in the unit that makes it short. -/
def humanSize (size : Nat) : Text :=
  if size < 1024 then Text.ofNat size
  else
    let tenths := (size * 10 + 1023) / 1024
    if tenths < 100 then Text.ofNat (tenths / 10) ++ "." ++ Text.ofNat (tenths % 10) ++ "K"
    else Text.ofNat ((size + 1023) / 1024) ++ "K"

/-- When every file was last changed, as a long listing tells it. -/
def date : Text :=
  "Jan  1 00:00"

/-- The columns of a long listing before the name. -/
def columns (style : ListingStyle) (links : Nat) (entry : Entry) : List Text :=
  let facts := FileFacts.ofEntry entry
  let size := if style.options.has "h" then humanSize facts.size else Text.ofNat facts.size
  let owner : Text := if style.options.has "n" then "0" else "root"
  [facts.rights, Text.ofNat links] ++
    (if style.options.has "g" then [] else [owner]) ++
    (if style.options.has "o" ∨ style.options.has "G" then [] else [owner]) ++ [size, date]

/-- How many names lead to an entry: a directory has one in itself and in each directory in it. -/
def linkCount (tree : FileTree) (location : Location) (entry : Entry) : Nat :=
  if entry.isDirectory then
    2 + (tree.entries.filter fun other => other.1.tail = location ∧ other.1 ≠ [] ∧
      other.2.isDirectory).length
  else 1

/-- An entry to be listed: the name that is shown, its location, and what is there. -/
structure Listed where
  name : Text
  location : Location
  entry : Entry

/-- Names with commas between them, on lines of limited width. -/
def commaSeparated : Nat → List Text → Text
  | _, [] => []
  | _, [name] => name ++ "\n"
  | position, name :: next :: names =>
      let position := position + name.length
      if position + 2 + next.length + 2 ≤ 80 then
        name ++ ", " ++ commaSeparated (position + 2) (next :: names)
      else name ++ ",\n" ++ commaSeparated 0 (next :: names)

/-- The lines for some entries. -/
def lines (style : ListingStyle) (tree : FileTree) (listed : List Listed) : Text :=
  let name (item : Listed) : Text := style.shownName item.name ++ style.sign item.entry
  let size (item : Listed) : Text :=
    if style.options.has "s" then Text.ofNat (blocks item.entry) else []
  let sizeWidth := (listed.map fun item => (size item).length).foldl max 0
  let lead (item : Listed) : Text :=
    if style.options.has "s" then rightAligned sizeWidth (size item) ++ " " else []
  if style.isLong then
    let rows := listed.map fun item =>
      style.columns (linkCount tree item.location item.entry) item.entry
    let width (index : Nat) : Nat := (rows.map fun row => (row.getD index []).length).foldl max 0
    let numberColumns := [1, (rows.headD []).length - 2]
    (listed.zip rows).flatMap fun (item, row) =>
      let cells := row.zipIdx.map fun (cell, index) =>
        if numberColumns.contains index then rightAligned (width index) cell
        else cell ++ List.replicate (width index - cell.length) ' '
      let target : Text :=
        match item.entry with
        | .link target => " -> " ++ style.shownName target
        | _ => []
      lead item ++ Text.join " " cells ++ " " ++ name item ++ target ++ "\n"
  else if style.options.last? ["m", "1", "C", "x"] = some ['m'] then
    commaSeparated 0 (listed.map fun item => lead item ++ name item)
  else
    listed.flatMap fun item => lead item ++ name item ++ "\n"

/-- The extension of a name, with its dot. -/
def extension (name : Text) : Text :=
  match name.reverse.findIdx? (· = '.') with
  | some count => name.drop (name.length - count - 1)
  | none => []

/-- Entries in the order that is asked for. -/
def ordered (style : ListingStyle) (tree : FileTree) (listed : List Listed) : List Listed :=
  let byName := listed.mergeSort fun first second => Text.precedes first.name second.name
  let key := style.options.last? ["S", "X", "t", "U", "f"]
  let sorted :=
    if key = some ['S'] then
      let size (item : Listed) : Nat := (FileFacts.ofEntry item.entry).size
      byName.mergeSort fun first second => size second ≤ size first
    else if key = some ['X'] then
      byName.mergeSort fun first second =>
        Text.precedes (extension first.name) (extension second.name)
    else if key = some ['t'] then
      let age (item : Listed) : Nat := tree.entries.findIdx fun entry => entry.1 = item.location
      byName.mergeSort fun first second => age first ≤ age second
    else byName
  let sorted := if style.options.has "r" then sorted.reverse else sorted
  if style.options.has "group-directories-first" then
    (sorted.filter (·.entry.isDirectory)) ++ sorted.filter (!·.entry.isDirectory)
  else sorted

/-- Whether a name in a directory is listed. -/
def shows (style : ListingStyle) (name : Text) : Bool :=
  let showsHidden := ["a", "A", "f"].any fun (key : String) => style.options.has key
  let isIgnored := (style.options.values "I").any fun pattern => (Pattern.ofEscaped pattern).covers name
  let isHidden := (style.options.values "hide").any fun pattern =>
    (Pattern.ofEscaped pattern).covers name
  (showsHidden || (name.head? ≠ some '.' && !isHidden)) && !isIgnored &&
    !(style.options.has "B" && name.getLast? = some '~')

/-- The entries of a directory that are listed. -/
def entriesIn (style : ListingStyle) (tree : FileTree) (location : Location) : List Listed :=
  let dots : List Listed :=
    if style.options.has "a" ∨ style.options.has "f" then
      [⟨['.'], location, .directory⟩, ⟨['.', '.'], location.tail, .directory⟩]
    else []
  let named := (namesIn tree location).filterMap fun name =>
    if style.shows name then
      (tree.get? (name :: location)).map fun entry => (⟨name, name :: location, entry⟩ : Listed)
    else none
  style.ordered tree (dots ++ named)

def total (style : ListingStyle) (listed : List Listed) : Text :=
  if style.isLong ∨ style.options.has "s" then
    "total " ++ Text.ofNat ((listed.map fun item => blocks item.entry).foldl (· + ·) 0) ++ "\n"
  else []

/-- The sections for a directory and, if that is asked for, for all directories in it. As many may be
inside each other. -/
def sections (style : ListingStyle) (tree : FileTree) (hasTitle : Bool) :
    Nat → Text → Location → List Text
  | 0, _, _ => []
  | depth + 1, path, location =>
      let listed := style.entriesIn tree location
      let title : Text := if hasTitle then style.shownName path ++ ":\n" else []
      let below :=
        if style.options.has "R" then
          listed.flatMap fun item =>
            if item.entry.isDirectory && item.name ≠ ['.'] && item.name ≠ ['.', '.'] then
              sections style tree hasTitle depth (pathIn path item.name) item.location
            else []
        else []
      (title ++ style.total listed ++ style.lines tree listed) :: below

end ListingStyle

namespace Invocation

/-- Lists files and directories. -/
def ls (invocation : Invocation) : Effect :=
  invocation.reading ("a=all A=almost-all b=escape B=ignore-backups c C d=directory D f " ++
    "F::=classify g G=no-group h=human-readable H=dereference-command-line i=inode I:=ignore " ++
    "k=kibibytes l L=dereference m n=numeric-uid-gid N=literal o p q=hide-control-chars " ++
    "Q=quote-name r=reverse R=recursive s=size S t T:=tabsize u U v w:=width x X Z=context 1 " ++
    "::=color :=hide =group-directories-first :=indicator-style :=sort :=time " ++
    ":=quoting-style :=time-style =full-time =si =author =file-type ::=hyperlink") 2 fun options =>
    let style : ListingStyle := ⟨options⟩
    let tree := invocation.tree
    let operands := if options.operands.isEmpty then [['.']] else options.operands
    let followsLinks := options.has "L" || options.has "H" ||
      !(options.has "d" || style.isLong || options.last? ["F", "p"] = some ['F'])
    let found (path : Text) : Option (ListingStyle.Listed × Bool) :=
      let itself := Condition.entryItself? tree path
      let behind := (tree.status path).toOption
      let entry? :=
        if followsLinks ∧ behind.any Entry.isDirectory ∨ options.has "L" then
          behind.orElse fun _ => itself
        else itself
      entry?.map fun entry =>
        let location := (if entry.isDirectory then tree.locate .lookup path
          else (tree.slot? path).map fun slot => slot.getD []).toOption.getD []
        (⟨path, location, entry⟩, entry.isDirectory && !options.has "d")
    let errors := operands.foldl
      (fun (outcome : Outcome) path =>
        match found path, tree.status path with
        | none, .error errno =>
            outcome.append <| .ofError
              (invocation.message
                ("cannot access " ++ quotedWord path ++ ": " ++ errno.text)) 2
        | _, _ => outcome)
      {}
    let all := operands.filterMap found
    let order (listed : List ListingStyle.Listed) : List ListingStyle.Listed :=
      if options.last? ["U", "f"] = none then style.ordered tree listed else listed
    let files := order ((all.filter (!·.2)).map Prod.fst)
    let directories := order ((all.filter (·.2)).map Prod.fst)
    let hasTitle := 1 < operands.length || options.has "R"
    let first := if files.isEmpty then [] else [style.lines tree files]
    let sections := directories.flatMap fun item =>
      style.sections tree hasTitle (tree.entries.length + 1) item.name item.location
    invocation.report (errors.append (.ofText (Text.join "\n" (first ++ sections))))

end Invocation

end AsmLens.Shell
