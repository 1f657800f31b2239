import AsmLens.Shell.Condition
import AsmLens.Shell.Pattern
import AsmLens.Shell.Regex.Match
import AsmLens.Shell.Regex.Reader
import AsmLens.Shell.Utility.Launching
import AsmLens.Shell.Utility.Listing
import AsmLens.Shell.Utility.Tree

namespace AsmLens.Shell

/-- An entry that a search through directories has come to. -/
structure FoundEntry where
  /-- Where the search has started, and how far below that the entry is. -/
  start : Text
  depth : Nat
  path : Text
  location : Location
  entry : Entry

namespace FoundEntry

def name (found : FoundEntry) : Text :=
  let bare := (found.path.reverse.dropWhile (· = '/')).reverse
  if bare.isEmpty then found.path else (bare.reverse.takeWhile (· ≠ '/')).reverse

def size (found : FoundEntry) : Nat :=
  match found.entry with
  | .file bytes _ => bytes.length
  | .directory => 4096
  | .link target => (Text.toOctets target).length

def letter (entry : Entry) : Char :=
  match entry with
  | .file _ _ => 'f'
  | .directory => 'd'
  | .link _ => 'l'

/-- What a link leads to, or the entry itself. -/
def target? (tree : FileTree) (found : FoundEntry) : Option Entry :=
  (tree.status found.path).toOption

def isEmpty (tree : FileTree) (found : FoundEntry) : Bool :=
  match found.entry with
  | .file bytes _ => bytes.isEmpty
  | .directory => (namesIn tree found.location).isEmpty
  | .link _ => false

/-- A part of a format: what a letter stands for. -/
def shown? (tree : FileTree) (found : FoundEntry) (letter' : Char) : Option Text :=
  match letter' with
  | 'p' => some found.path
  | 'f' => some found.name
  | 'h' =>
      let above := found.path.dropLast.reverse.dropWhile (· ≠ '/')
      some (if found.path.contains '/' then above.reverse.dropLast else ['.'])
  | 'P' => some ((found.path.drop found.start.length).dropWhile (· = '/'))
  | 'H' => some found.start
  | 's' => some (Text.ofNat found.size)
  | 'd' => some (Text.ofNat found.depth)
  | 'y' => some [letter found.entry]
  | 'Y' => some [((found.target? tree).map letter).getD 'N']
  | 'm' => some (Nat.toDigits 8 (permissions found.entry))
  | 'l' =>
      match found.entry with
      | .link target => some target
      | _ => some []
  | 'u' | 'g' => some "root"
  | 'U' | 'G' => some "0"
  | 'n' => some (Text.ofNat (ListingStyle.linkCount tree found.location found.entry))
  | '%' => some ['%']
  | _ => none

/-- An entry in a format. As many steps are allowed. -/
def formatted (tree : FileTree) (found : FoundEntry) : Nat → Text → Text
  | 0, _ => []
  | _, [] => []
  | steps + 1, '\\' :: c :: rest =>
      let letters : List (Char × Char) := [('n', '\n'), ('t', '\t'), ('0', '\x00'), ('\\', '\\'),
        ('a', '\x07'), ('b', '\x08'), ('f', '\x0c'), ('r', '\r'), ('v', '\x0b')]
      match letters.find? fun entry => entry.1 = c with
      | some (_, meant) => meant :: formatted tree found steps rest
      | none => '\\' :: c :: formatted tree found steps rest
  | steps + 1, '%' :: c :: rest =>
      match shown? tree found c with
      | some text => text ++ formatted tree found steps rest
      | none => '%' :: c :: formatted tree found steps rest
  | steps + 1, c :: rest => c :: formatted tree found steps rest

end FoundEntry

/-- What a search tests and does at each entry. Commands that run once for all entries are known by
their numbers. -/
inductive FindExpr where
  | test (holds : FileTree → FoundEntry → Bool)
  | show (text : FileTree → FoundEntry → Text)
  | run (words : List Text)
  | collect (number : Nat) (words : List Text)
  | delete
  | prune
  | quit
  | negation (inside : FindExpr)
  | both (first second : FindExpr)
  | either (first second : FindExpr)
  | sequence (first second : FindExpr)

/-- What a search has done so far. -/
structure FindState where
  effect : Effect
  collected : List (Nat × List Text) := []
  hasPruned : Bool := false
  hasQuit : Bool := false

namespace FindExpr

/-- Whether something is done besides telling which entries are meant. -/
def acts : FindExpr → Bool
  | .show _ | .run _ | .collect _ _ | .delete => true
  | .test _ | .prune | .quit => false
  | .negation inside => acts inside
  | .both first second | .either first second | .sequence first second =>
      acts first || acts second

/-- The commands that run once for all entries. -/
def collecting : FindExpr → List (Nat × List Text)
  | .collect number words => [(number, words)]
  | .negation inside => collecting inside
  | .both first second | .either first second | .sequence first second =>
      collecting first ++ collecting second
  | _ => []

def say (state : FindState) (outcome : Outcome) : FindState :=
  { state with
    effect := { state.effect with outcome := state.effect.outcome.append outcome } }

/-- Runs a command. Gives whether it could be run, and how it has ended. -/
def launch (invocation : Invocation) (words : List Text) (state : FindState) :
    Option Nat × FindState :=
  match invocation.execute words state.effect.tree state.effect.input with
  | .error errno =>
      (none, say state (.ofError
        (invocation.message (curled (words.headD []) ++ ": " ++ errno.text)) 0))
  | .ok after =>
      let next := say state { after.outcome with status := 0 }
      (some after.outcome.status,
        { next with effect := { next.effect with tree := after.tree, input := after.input } })

def eval (invocation : Invocation) (found : FoundEntry) :
    FindExpr → FindState → Bool × FindState
  | .test holds, state => (holds state.effect.tree found, state)
  | .show text, state => (true, say state (.ofText (text state.effect.tree found)))
  | .run words, state =>
      let given := words.map fun word =>
        Invocation.putInPlace ['\x7b', '\x7d'] found.path (word.length + 1) word
      let (status?, state) := launch invocation given state
      (status? = some 0, state)
  | .collect number _, state =>
      (true, { state with collected := state.collected ++ [(number, [found.path])] })
  | .delete, state =>
      if found.path = "." then (true, state)
      else
        let refuse (errno : Text) : Bool × FindState :=
          (false, say state (.ofError
            (invocation.message ("cannot delete " ++ curled found.path ++ ": " ++ errno)) 1))
        let tree := state.effect.tree
        if found.entry.isDirectory && !(namesIn tree found.location).isEmpty then
          refuse "Directory not empty"
        else
          (true, { state with
            effect := { state.effect with tree := tree.erase found.location } })
  | .prune, state => (true, { state with hasPruned := true })
  | .quit, state => (true, { state with hasQuit := true })
  | .negation inside, state =>
      let (holds, state) := eval invocation found inside state
      (!holds, state)
  | .both first second, state =>
      let (holds, state) := eval invocation found first state
      if holds && !state.hasQuit then eval invocation found second state else (holds, state)
  | .either first second, state =>
      let (holds, state) := eval invocation found first state
      if holds || state.hasQuit then (true, state) else eval invocation found second state
  | .sequence first second, state =>
      let (_, state) := eval invocation found first state
      if state.hasQuit then (true, state) else eval invocation found second state

end FindExpr

/-- How a search goes through directories. -/
structure FindStyle where
  most : Option Nat := none
  least : Nat := 0
  isDepthFirst : Bool := false
  followsLinks : Bool := false
  commands : Nat := 0

namespace FindExpr

/-- What is at a path, and where. -/
def look (style : FindStyle) (tree : FileTree) (path : Text) : Except Errno (Location × Entry) := do
  let own (location : Location) : Except Errno (Location × Entry) :=
    match tree.get? location with
    | some entry => .ok (location, entry)
    | none => .error .noEntry
  let followed : Except Errno (Location × Entry) := do
    own (← tree.locate .lookup path)
  let direct : Except Errno (Location × Entry) := do
    match ← tree.slot? path with
    | some location => own location
    | none => followed
  if style.followsLinks then
    match followed with
    | .ok found => .ok found
    | .error _ => direct
  else direct

/-- Goes through an entry and all that is below it. As many directories are entered. -/
def walk (invocation : Invocation) (style : FindStyle) (expression : FindExpr) :
    Nat → FoundEntry → FindState → FindState
  | 0, _, state => state
  | steps + 1, found, state =>
      if state.hasQuit then state
      else
        let visit (state : FindState) : FindState :=
          if found.depth < style.least then state
          else (expression.eval invocation found { state with hasPruned := false }).2
        let descend (state : FindState) : FindState :=
          if !found.entry.isDirectory || style.most.any (· ≤ found.depth) then state
          else
            (namesIn state.effect.tree found.location).foldl
              (fun state name =>
                let path := pathIn found.path name
                match look style state.effect.tree path with
                | .error _ => state
                | .ok (location, entry) =>
                    walk invocation style expression steps
                      { found with path, location, entry, depth := found.depth + 1 } state)
              state
        if style.isDepthFirst then visit (descend state)
        else
          let visited := visit { state with hasPruned := false }
          let isThere := (visited.effect.tree.get? found.location).isSome
          if visited.hasPruned || visited.hasQuit then { visited with hasPruned := false }
          else if found.entry.isDirectory && !isThere then
            say visited (.ofError (invocation.message
              (curled found.path ++ ": No such file or directory")) 1)
          else descend visited

/-- Starts a search at a path. -/
def searchFrom (invocation : Invocation) (style : FindStyle) (expression : FindExpr)
    (state : FindState) (start : Text) : FindState :=
  let tree := state.effect.tree
  match look style tree start with
  | .error errno =>
      say state (.ofError (invocation.message (curled start ++ ": " ++ errno.text)) 1)
  | .ok (location, entry) =>
      walk invocation style expression (tree.entries.length + 2) ⟨start, 0, start, location, entry⟩
        state

/-- Runs the commands that have been put off, each with all entries. -/
def finish (invocation : Invocation) (expression : FindExpr) (state : FindState) : FindState :=
  expression.collecting.foldl
    (fun state (number, words) =>
      let paths := state.collected.flatMap fun entry => if entry.1 = number then entry.2 else []
      if paths.isEmpty then state
      else
        match launch invocation (words ++ paths) state with
        | (some 0, state) => state
        | (_, state) => say state (.ofStatus 1))
    state

end FindExpr

/-- What is left of an expression that is read, and how the search is to go. -/
structure FindReader where
  words : List Text
  style : FindStyle := {}
  /-- The word of the last test or operator. -/
  before : Text := []
  /-- Whether there is a file of a name. -/
  isFile : Text → Bool := fun _ => false

abbrev FindReading := StateT FindReader (Except Text)

namespace FindReading

def refuse {α : Type} (message : Text) : FindReading α :=
  throw message

/-- A number with a sign that tells how it is compared. -/
def comparison? (word : Text) : Option (Nat → Bool) :=
  match word with
  | '+' :: digits => (count? digits).map fun limit value => limit < value
  | '-' :: digits => (count? digits).map fun limit value => value < limit
  | digits => (count? digits).map fun limit value => value = limit

def value (name : Text) : FindReading Text := do
  match (← get).words with
  | [] => refuse ("missing argument to \x60" ++ name ++ "'")
  | word :: rest =>
      modify fun reader => { reader with words := rest }
      return word

/-- Leaves out the word of a test or an operator. -/
def pass (word : Text) (rest : List Text) : FindReading Unit :=
  modify fun reader => { reader with words := rest, before := word }

/-- Refuses a path behind the start of an expression. Names that a pattern has been replaced by come to
that place. -/
def refusePath {α : Type} (word : Text) : FindReading α := do
  let reader ← get
  let line : Text := "paths must precede expression: \x60" ++ word ++ "'"
  if !reader.before.isEmpty && reader.isFile word then
    refuse (line ++ "\nfind: possible unquoted pattern after predicate \x60" ++ reader.before ++ "'?")
  else refuse line

def changeStyle (change : FindStyle → FindStyle) : FindReading FindExpr := do
  modify fun reader => { reader with style := change reader.style }
  return .test fun _ _ => true

/-- A depth that bounds the search. -/
def depthOf (name : Text) : FindReading Nat := do
  let word ← value name
  match count? word with
  | some depth => return depth
  | none =>
      refuse ("Expected a positive decimal integer argument to " ++ name ++ ", but got " ++ curled word)

/-- The test for a size in some unit. -/
def sizeTest (word : Text) : FindReading FindExpr := do
  let units : List (Char × Nat) :=
    [('c', 1), ('w', 2), ('b', 512), ('k', 1024), ('M', 1048576), ('G', 1073741824)]
  let last := word.getLastD ' '
  let (digits, unit?) : Text × Option Nat :=
    if last.isDigit then (word, some 512)
    else (word.dropLast, (units.find? fun entry => entry.1 = last).map Prod.snd)
  match unit?, comparison? digits with
  | none, _ => refuse ("invalid -size type \x60" ++ [last] ++ "'")
  | _, none => refuse ("Invalid argument \x60" ++ word ++ "' to -size")
  | some unit, some holds =>
      return .test fun _ found => holds ((found.size + unit - 1) / unit)

def modeTest (word : Text) : FindReading FindExpr := do
  let (kind, bare) : Char × Text :=
    match word with
    | '-' :: rest => ('-', rest)
    | '/' :: rest => ('/', rest)
    | rest => ('=', rest)
  match ModeChange.ofText? bare with
  | none => refuse ("invalid mode " ++ curled word)
  | some change =>
      let wanted := change false 0
      return .test fun _ found =>
        let mode := permissions found.entry
        if kind = '-' then mode &&& wanted = wanted
        else if kind = '/' then wanted = 0 || mode &&& wanted ≠ 0
        else mode = wanted

def typeTest (wanted : Text) (follows : Bool) (name : Text) : FindReading FindExpr := do
  let letters := Text.cut ',' wanted
  let isType (letter : Text) : Bool :=
    letter.length = 1 && "bcdpflsD".toList.contains (letter.headD ' ')
  match letters.find? fun letter => !isType letter with
  | some letter => refuse ("Unknown argument to " ++ name ++ ": " ++ [letter.headD ' '])
  | none =>
      return .test fun tree found =>
        let entry := if follows then (found.target? tree).getD found.entry else found.entry
        letters.contains [FoundEntry.letter entry]

def nameTest (ignoresCase : Bool) (pattern : Text) (part : FoundEntry → Text) : FindExpr :=
  let cased (text : Text) : Text := if ignoresCase then text.map Char.toLower else text
  let glob := Pattern.ofEscaped (cased pattern)
  .test fun _ found => glob.covers (cased (part found))

/-- The words of a command up to its end, and whether that is a plus sign. -/
def command (name : Text) : FindReading (List Text × Bool) := do
  let words := (← get).words
  let isPlus (before word : Text) : Bool := word = "+" && before = "\x7b\x7d"
  let ending? := (words.zip (([] : Text) :: words)).findIdx? fun (word, before) =>
    word = ";" || isPlus before word
  match ending? with
  | none | some 0 => refuse ("missing argument to \x60" ++ name ++ "'")
  | some place =>
      modify fun reader => { reader with words := words.drop (place + 1) }
      let isMany := words[place]? = some "+".toList
      return (words.take (if isMany then place - 1 else place), isMany)

/-- What a word with a dash tests or does. -/
def primary (name : Text) : FindReading FindExpr := do
  let always (holds : Bool) : FindExpr := .test fun _ _ => holds
  let plain : List (String × FindExpr) := [
    ("-print", .show fun _ found => found.path ++ ['\n']),
    ("-print0", .show fun _ found => found.path ++ ['\x00']),
    ("-delete", .delete), ("-prune", .prune), ("-quit", .quit), ("-true", always true),
    ("-false", always false), ("-empty", .test fun tree found => found.isEmpty tree),
    ("-readable", always true), ("-writable", always true), ("-nouser", always false),
    ("-nogroup", always false), ("-warn", always true), ("-nowarn", always true),
    ("-mount", always true), ("-xdev", always true), ("-noleaf", always true),
    ("-executable", .test fun tree found =>
      match found.target? tree with
      | some (.file _ executable) => executable
      | some .directory => true
      | _ => false)]
  match plain.find? fun entry => entry.1.toList = name with
  | some (_, found) =>
      if name = "-delete" then
        let _ ← changeStyle fun style => { style with isDepthFirst := true }
      return found
  | none =>
      if name = "-depth" ∨ name = "-d" then
        changeStyle fun style => { style with isDepthFirst := true }
      else if name = "-follow" then changeStyle fun style => { style with followsLinks := true }
      else if name = "-maxdepth" then
        let depth ← depthOf name
        changeStyle fun style => { style with most := some depth }
      else if name = "-mindepth" then
        let depth ← depthOf name
        changeStyle fun style => { style with least := depth }
      else if name = "-name" then return nameTest false (← value name) FoundEntry.name
      else if name = "-iname" then return nameTest true (← value name) FoundEntry.name
      else if name = "-path" ∨ name = "-wholename" then
        return nameTest false (← value name) FoundEntry.path
      else if name = "-ipath" ∨ name = "-iwholename" then
        return nameTest true (← value name) FoundEntry.path
      else if name = "-lname" then
        let glob := Pattern.ofEscaped (← value name)
        return .test fun _ found =>
          match found.entry with
          | .link target => glob.covers target
          | _ => false
      else if name = "-regex" ∨ name = "-iregex" then
        match Regex.read .basic (← value name) with
        | .error _ => refuse "failed to compile regular expression"
        | .ok regex =>
            return .test fun _ found =>
              ((Regex.both regex (.boundary .textEnd)).matchHere? ⟨name = "-iregex", false⟩ none
                found.path).isSome
      else if name = "-type" then typeTest (← value name) false name
      else if name = "-xtype" then typeTest (← value name) true name
      else if name = "-size" then sizeTest (← value name)
      else if name = "-perm" then modeTest (← value name)
      else if name = "-links" then
        let word ← value name
        match comparison? word with
        | none => refuse ("invalid argument \x60" ++ word ++ "' to \x60" ++ name ++ "'")
        | some holds =>
            return .test fun tree found => holds (ListingStyle.linkCount tree found.location found.entry)
      else if name = "-user" ∨ name = "-group" then
        let word ← value name
        if word = "root" ∨ word = "0" then return always true
        else if name = "-user" then refuse (curled word ++ " is not the name of a known user")
        else refuse (curled word ++ " is not the name of an existing group")
      else if ["-mtime", "-atime", "-ctime", "-mmin", "-amin", "-cmin"].any
          fun (known : String) => known.toList = name then
        let word ← value name
        match comparison? word with
        | none => refuse ("invalid argument \x60" ++ word ++ "' to \x60" ++ name ++ "'")
        | some holds => return always (holds 0)
      else if name = "-newer" ∨ name = "-anewer" ∨ name = "-cnewer" then
        let other ← value name
        if !(← get).isFile other then refuse (curled other ++ ": " ++ Errno.noEntry.text)
        return .test fun tree found => Condition.isNewer tree found.path other
      else if name = "-printf" then
        let format ← value name
        return .show fun tree found => found.formatted tree (format.length + 1) format
      else if name = "-exec" ∨ name = "-execdir" then
        let (words, isMany) ← command name
        if isMany then
          let number := (← get).style.commands
          modify fun reader =>
            { reader with style := { reader.style with commands := number + 1 } }
          return .collect number words
        else return .run words
      else refuse ("unknown predicate \x60" ++ name ++ "'")

mutual

def list : Nat → FindReading FindExpr
  | 0 => refuse []
  | steps + 1 => do
      let first ← alternatives steps
      match (← get).words with
      | [','] :: rest =>
          modify fun reader => { reader with words := rest }
          return .sequence first (← list steps)
      | _ => return first

def alternatives : Nat → FindReading FindExpr
  | 0 => refuse []
  | steps + 1 => do
      let first ← conjunction steps
      match (← get).words with
      | word :: rest =>
          if word = "-o" ∨ word = "-or" then
            pass word rest
            if rest.isEmpty then refuse ("expected an expression after '" ++ word ++ "'")
            return .either first (← alternatives steps)
          else return first
      | [] => return first

def conjunction : Nat → FindReading FindExpr
  | 0 => refuse []
  | steps + 1 => do
      let first ← term steps
      match (← get).words with
      | [] => return first
      | word :: rest =>
          if word = "-o" ∨ word = "-or" ∨ word = "," ∨ word = ")" then return first
          else if word = "-a" ∨ word = "-and" then
            pass word rest
            if rest.isEmpty then refuse ("expected an expression after '" ++ word ++ "'")
            return .both first (← conjunction steps)
          else return .both first (← conjunction steps)

def term : Nat → FindReading FindExpr
  | 0 => refuse []
  | steps + 1 => do
      match (← get).words with
      | [] => refuse "invalid expression"
      | word :: rest =>
          if word.head? = some '-' ∨ word = "!" ∨ word = "(" then pass word rest
          if word = "!" ∨ word = "-not" then
            if rest.isEmpty then refuse ("expected an expression after '" ++ word ++ "'")
            return .negation (← term steps)
          else if word = "(" then
            let inside ← list steps
            match (← get).words with
            | [')'] :: rest =>
                modify fun reader => { reader with words := rest }
                return inside
            | _ =>
                refuse ("invalid expression; I was expecting to find a ')' somewhere but did not see " ++
                  "one.")
          else if word = ")" then refuse "you have too many ')'"
          else if word = "-o" ∨ word = "-or" ∨ word = "-a" ∨ word = "-and" ∨ word = "," then
            refuse ("invalid expression; you have used a binary operator '" ++ word ++
              "' with nothing before it.")
          else if word.head? = some '-' then primary word
          else refusePath word

end

end FindReading

namespace Invocation

/-- Searches for files in directories. -/
def find (invocation : Invocation) : Effect :=
  let isOption (word : Text) : Bool := word = "-H" || word = "-L" || word = "-P"
  let options := invocation.arguments.takeWhile isOption
  let words := invocation.arguments.drop options.length
  let startsExpression (word : Text) : Bool :=
    word.head? = some '-' || word = "(" || word = "!" || word = ","
  let given := words.takeWhile fun word => !startsExpression word
  let rest := words.drop given.length
  let reader : FindReader := {
    words := rest
    style := { followsLinks := options.getLast? = some "-L".toList }
    isFile := fun path => (invocation.tree.status path).toOption.isSome }
  let reading : FindReading FindExpr := do
    if rest.isEmpty then return .test fun _ _ => true
    let found ← FindReading.list (10 * rest.length + 10)
    match (← get).words with
    | [] => return found
    | word :: _ =>
        if word = ")" then FindReading.refuse "you have too many ')'"
        else FindReading.refuse "invalid expression"
  match reading.run reader with
  | .error message => invocation.refuse message 1
  | .ok (found, reader) =>
      let expression : FindExpr :=
        if found.acts then found
        else .both found (.show fun _ found => found.path ++ ['\n'])
      let starts : List Text := if given.isEmpty then ["."] else given
      let searched := starts.foldl (FindExpr.searchFrom invocation reader.style expression)
        ⟨invocation.report {}, [], false, false⟩
      (expression.finish invocation searched).effect

end Invocation

end AsmLens.Shell
