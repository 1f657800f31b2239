import AsmLens.Shell.Pattern
import AsmLens.Shell.Regex.Match
import AsmLens.Shell.Regex.Reader
import AsmLens.Shell.Utility.Tree
import AsmLens.Text.Octets

namespace AsmLens.Shell

/-- What lines are searched for. -/
structure Criteria where
  patterns : List Regex
  matching : Matching
  asksForWords : Bool
  asksForLines : Bool
  isInverted : Bool

namespace Criteria

/-- The longest part that counts from the start of a text on. -/
def matchHere? (criteria : Criteria) (before : Option Char) (text : Text) : Option Found :=
  let isWanted (place : Place) : Bool :=
    (!criteria.asksForLines || (before.isNone && place.rest.isEmpty)) &&
      (!criteria.asksForWords ||
        (!before.any isWordChar && !place.rest.head?.any isWordChar))
  let places := criteria.patterns.filterMap fun regex =>
    (regex.ends criteria.matching regex.looksBack { before, rest := text }).find? isWanted
  let longest := places.foldl
    (fun (best : Option Place) place =>
      if best.any fun other => place.passed ≤ other.passed then best else some place)
    none
  longest.map fun place => ⟨[], text.take place.passed, place.rest, place.groups⟩

def find? (criteria : Criteria) : Option Char → Text → Option Found
  | before, [] => criteria.matchHere? before []
  | before, c :: rest =>
      match criteria.matchHere? before (c :: rest) with
      | some found => some found
      | none =>
          if criteria.asksForLines then none
          else
            (find? criteria (some c) rest).map fun found =>
              { found with skipped := c :: found.skipped }

def selects (criteria : Criteria) (line : Text) : Bool :=
  (criteria.find? none line).isSome != criteria.isInverted

/-- The parts of a line that are found, with how many bytes come before each. As many steps are
allowed. -/
def parts (criteria : Criteria) : Nat → Nat → Option Char → Text → List (Nat × Text)
  | 0, _, _, _ => []
  | steps + 1, offset, before, text =>
      match criteria.find? before text with
      | none => []
      | some found =>
          let start := offset + (Text.toOctets found.skipped).length
          let last := (found.skipped ++ found.matched).getLast?
          match found.matched, found.rest with
          | [], [] => []
          | [], c :: rest =>
              parts criteria steps (start + (Text.toOctets [c]).length) (some c) rest
          | matched, rest =>
              (start, matched) ::
                parts criteria steps (start + (Text.toOctets matched).length) last rest

end Criteria

/-- How what is found is shown. -/
structure SearchStyle where
  options : Options
  hasName : Bool
  limit : Option Nat
  linesBefore : Nat
  linesAfter : Nat

/-- A line of a file with its number and how many bytes come before it. -/
structure NumberedLine where
  number : Nat
  offset : Nat
  text : Text

/-- A search in a file at work: the lines before that may still be shown, how many lines after the last one
found are, and what has been written. -/
structure SearchState where
  selected : Nat := 0
  held : List NumberedLine := []
  following : Nat := 0
  lastShown : Option Nat := none
  /-- Whether something has been shown of a file before. -/
  isLater : Bool := false
  written : List UInt8 := []
  isBinary : Bool := false

namespace SearchStyle

def ending (style : SearchStyle) : UInt8 :=
  if style.options.has "z" then 0 else 10

/-- What stands before a line: the name of the file, the number of the line and its place. -/
def lead (style : SearchStyle) (name : Text) (mark : Char) (line : NumberedLine) (offset : Nat) :
    List UInt8 :=
  let nameEnd : Text := if style.options.has "Z" then ['\x00'] else [mark]
  let file : Text := if style.hasName then name ++ nameEnd else []
  let number : Text :=
    if style.options.has "n" then Text.ofNat line.number ++ [mark] else []
  let place : Text := if style.options.has "b" then Text.ofNat offset ++ [mark] else []
  Text.encode (file ++ number ++ place)

def shown (style : SearchStyle) (name : Text) (mark : Char) (line : NumberedLine) : List UInt8 :=
  style.lead name mark line line.offset ++ Text.toOctets line.text ++ [style.ending]

/-- Whether lines are not written but only counted or told about. -/
def isQuiet (style : SearchStyle) : Bool :=
  ["q", "l", "L", "c"].any fun (key : String) => style.options.has key

def isStray (text : Text) : Bool :=
  text.any fun c => (Text.strayByte? c).isSome

/-- Writes bytes for a line, unless they are no text. -/
def write (style : SearchStyle) (state : SearchState) (line : NumberedLine) (bytes : List UInt8) :
    SearchState :=
  if state.isBinary then state
  else if isStray line.text ∧ !style.options.has "a" then { state with isBinary := true }
  else { state with written := state.written ++ bytes, lastShown := some line.number }

/-- The separator between lines that do not follow each other. -/
def gap (style : SearchStyle) (state : SearchState) (line : NumberedLine) : List UInt8 :=
  let hasContext := 0 < style.linesBefore || 0 < style.linesAfter
  let isApart :=
    match state.lastShown with
    | some last => last + 1 < line.number
    | none => state.isLater
  if !hasContext || !isApart || style.options.has "no-group-separator" then []
  else Text.encode ((style.options.value? "group-separator").getD "--" ++ "\n")

def takeSelected (style : SearchStyle) (criteria : Criteria) (name : Text) (state : SearchState)
    (line : NumberedLine) : SearchState :=
  let state := { state with selected := state.selected + 1 }
  if style.isQuiet then state
  else if style.options.has "o" then
    if criteria.isInverted then state
    else
      let found := criteria.parts (line.text.length + 2) line.offset none line.text
      let gap := style.gap state line
      let bytes := found.flatMap fun part =>
        style.lead name ':' line part.1 ++ Text.toOctets part.2 ++ [style.ending]
      style.write { state with held := [] } line (if found.isEmpty then [] else gap ++ bytes)
  else
    let first := state.held.headD line
    let opened := { state with
      held := []
      written := if state.isBinary then state.written else state.written ++ style.gap state first }
    let before := state.held.foldl
      (fun state held => style.write state held (style.shown name '-' held)) opened
    style.write { before with following := style.linesAfter } line (style.shown name ':' line)

def takeOther (style : SearchStyle) (name : Text) (state : SearchState) (line : NumberedLine) :
    SearchState :=
  if style.isQuiet || style.options.has "o" then state
  else if 0 < state.following then
    style.write { state with following := state.following - 1 } line (style.shown name '-' line)
  else
    let held := state.held ++ [line]
    { state with held := held.drop (held.length - style.linesBefore) }

/-- Goes through the lines of a file, until enough of them have been found. -/
def search (style : SearchStyle) (criteria : Criteria) (name : Text) :
    SearchState → List NumberedLine → SearchState
  | state, [] => state
  | state, line :: rest =>
      let isFull := style.limit.any fun limit => limit ≤ state.selected
      if isFull && (state.following = 0 || style.isQuiet) then state
      else
        let isSelected := !isFull && criteria.selects line.text
        if isSelected && style.options.has "q" then
          { state with selected := state.selected + 1 }
        else
          search style criteria name
            (if isSelected then style.takeSelected criteria name state line
              else style.takeOther name state line)
            rest

def lines (style : SearchStyle) (bytes : List UInt8) : List NumberedLine :=
  let pieces := bytes.foldr
    (fun byte (lines : List (List UInt8)) =>
      match lines with
      | [] => [[byte]]
      | line :: lines =>
          if byte = style.ending then [byte] :: line :: lines else (byte :: line) :: lines)
    []
  number 1 0 pieces
where
  number : Nat → Nat → List (List UInt8) → List NumberedLine
    | _, _, [] => []
    | count, offset, piece :: rest =>
        let bare := if piece.getLast? = some style.ending then piece.dropLast else piece
        ⟨count, offset, Text.ofOctets bare⟩ :: number (count + 1) (offset + piece.length) rest

/-- What is told about a file, whether some of its lines are selected, and whether some are shown. -/
def report (style : SearchStyle) (criteria : Criteria) (isLater : Bool) (name : Text)
    (bytes : List UInt8) : List UInt8 × Bool × Bool :=
  let isBinary := bytes.contains 0 && !style.options.has "a" && !style.options.has "z"
  if isBinary && (style.options.has "I" || style.options.last? ["binary-files"] ≠ none &&
      style.options.value? "binary-files" = some "without-match".toList) then
    ([], false, false)
  else
    let isText := style.options.value? "binary-files" = some "text".toList
    let limit := if isBinary && !isText && !style.isQuiet then some 1 else style.limit
    let state := { style with limit }.search criteria name { isLater } (style.lines bytes)
    let isFound := 0 < state.selected
    let file : Text := if style.options.has "Z" then name ++ ['\x00'] else name ++ "\n"
    let text : List UInt8 :=
      if style.options.has "q" then []
      else if style.options.last? ["l", "L"] = some ['l'] then if isFound then file.encode else []
      else if style.options.has "L" then if isFound then [] else file.encode
      else if style.options.has "c" then
        let lead : Text :=
          if !style.hasName then []
          else name ++ if style.options.has "Z" then ['\x00'] else ":"
        Text.encode (lead ++ Text.ofNat state.selected ++ "\n")
      else if isBinary && !isText then
        if isFound then Text.encode ("grep: " ++ name ++ ": binary file matches\n") else []
      else if state.isBinary then
        state.written ++ Text.encode ("grep: " ++ name ++ ": binary file matches\n")
      else state.written
    (text, isFound, state.lastShown.isSome)

end SearchStyle

/-- The files below a directory, with their paths. -/
def filesBelow (tree : FileTree) : Nat → Text → Location → List Text
  | 0, _, _ => []
  | depth + 1, path, location =>
      (namesIn tree location).flatMap fun name =>
        let there := if path.isEmpty then name else pathIn path name
        match tree.get? (name :: location) with
        | some .directory => filesBelow tree depth there (name :: location)
        | some (.file _ _) => [there]
        | _ => []

/-- The regular expressions of some patterns, or what is wrong with one. -/
def readPatterns (style : RegexStyle) (isLiteral : Bool) (patterns : List Text) :
    Except RegexError (List Regex) :=
  patterns.mapM fun pattern =>
    if isLiteral then .ok (Regex.ofText pattern) else Regex.read style pattern

namespace Invocation

def searchUsage : Text :=
  "Usage: grep \x5bOPTION\x5d... PATTERNS \x5bFILE\x5d...\n" ++
    "Try 'grep --help' for more information.\n"

/-- What is said about operators that have nothing to work on. -/
def patternWarnings (patterns : List Text) : Text :=
  (patterns.flatMap fun pattern => Regex.idleOperators (pattern.length + 1) true pattern).flatMap
    fun warning => ("grep: warning: " ++ warning ++ "\n" : Text)

/-- The numbers for context: the last one that is given for both sides or for one. -/
def contextLines (options : Options) (key : String) : Except Text Nat :=
  let digits := options.found.filterMap fun entry =>
    match entry.1 with
    | [c] => if c.isDigit then some c else none
    | _ => none
  let word? := (options.value? key).orElse fun _ => options.value? "C"
  match word? with
  | some word =>
      match count? word with
      | some count => .ok count
      | none => .error (word ++ ": invalid context length argument")
  | none => .ok ((count? digits).getD 0)

/-- Searches files for lines. -/
def grep (invocation : Invocation) : Effect :=
  let table := OptionForm.table <|
    "E=extended-regexp F=fixed-strings G=basic-regexp P=perl-regexp e:=regexp f:=file " ++
    "i=ignore-case y =no-ignore-case w=word-regexp x=line-regexp z=null-data s=no-messages " ++
    "v=invert-match V=version m:=max-count b=byte-offset =line-buffered n=line-number " ++
    "H=with-filename h=no-filename :=label o=only-matching q=quiet,silent :=binary-files a=text I " ++
    "d:=directories D:=devices r=recursive R=dereference-recursive :=include :=exclude " ++
    ":=exclude-from :=exclude-dir L=files-without-match l=files-with-matches c=count " ++
    "T=initial-tab Z=null B:=before-context A:=after-context C:=context :=group-separator " ++
    "=no-group-separator ::=color,colour U=binary u 0 1 2 3 4 5 6 7 8 9"
  let refuse (text : Text) : Effect := invocation.report (.ofError ("grep: " ++ text ++ "\n") 2)
  match Options.read table false {} invocation.arguments with
  | .error error =>
      invocation.report (.ofError ("grep: " ++ error.message ++ "\n" ++ searchUsage) 2)
  | .ok options =>
      let implied : List Text :=
        if invocation.name = "egrep" then [['E']]
        else if invocation.name = "fgrep" then [['F']]
        else []
      let kinds := implied ++ (["E", "F", "G", "P"] : List Text).filter fun key => options.has key
      let isExtended := kinds.contains ['E'] || kinds.contains ['P']
      let style : RegexStyle := if isExtended then .lenient else .basic
      let isLiteral := kinds.contains ['F']
      let fromFiles : Except Text (List Text) := (options.values "f").foldlM
        (fun patterns path =>
          match invocation.read path with
          | .ok bytes => .ok (patterns ++ (bareLines bytes).map Text.ofOctets)
          | .error errno => .error (path ++ ": " ++ errno.text))
        []
      let isGiven := options.has "e" || options.has "f"
      let operands := if isGiven then options.operands else options.operands.tail
      match fromFiles, contextLines options "B", contextLines options "A" with
      | .error text, _, _ | _, .error text, _ | _, _, .error text => refuse text
      | .ok read, .ok linesBefore, .ok linesAfter =>
          if (options.values "m").any fun word => (count? word).isNone then refuse "invalid max count"
          else if kinds.any fun kind => kind ≠ kinds.headD [] then refuse "conflicting matchers specified"
          else if !isGiven ∧ options.operands.isEmpty then
            invocation.report (.ofError searchUsage 2)
          else if (options.value? "m").bind count? = some 0 then invocation.report (.ofStatus 1)
          else
            let written := if isGiven then options.values "e" else options.operands.take 1
            let patterns := written.flatMap (Text.cut '\n') ++ read
            let limit := (options.value? "m").bind count?
            match readPatterns style isLiteral patterns with
            | .error error => refuse error.message
            | .ok regexes =>
                let isStray (pattern : Text) : Bool :=
                  RegexToken.hasStrayClass style (pattern.length + 1) pattern
                if kinds.contains ['P'] ∧ 1 < patterns.length then
                  refuse "the -P option only supports a single pattern"
                else if !isLiteral ∧ patterns.any isStray then
                  refuse
                    ("character class syntax is \x5b\x5b:space:\x5d\x5d, not \x5b:space:\x5d")
                else
                  let ignoresCase := (options.last? ["i", "y", "no-ignore-case"]).any fun key =>
                    key ≠ "no-ignore-case".toList
                  let criteria : Criteria := {
                    patterns := regexes
                    matching := { ignoresCase }
                    asksForWords := options.has "w"
                    asksForLines := options.has "x"
                    isInverted := options.has "v" }
                  let warnings : Text :=
                    if kinds.contains ['E'] then patternWarnings patterns else []
                  let effect := searchFiles options operands criteria limit linesBefore linesAfter
                  if warnings.isEmpty then effect
                  else
                    { effect with
                      outcome := ⟨(.errors, warnings.encode) :: effect.outcome.written,
                        effect.outcome.status⟩ }
where
  searchFiles (options : Options) (operands : List Text) (criteria : Criteria) (limit : Option Nat)
      (linesBefore linesAfter : Nat) : Effect :=
    let tree := invocation.tree
    let isRecursive := options.has "r" || options.has "R"
    let operands :=
      if operands.isEmpty then if isRecursive then [[]] else [['-']] else operands
    let hasName : Bool :=
      match options.last? ["H", "h"] with
      | some key => key = ['H']
      | none =>
          1 < operands.length || (isRecursive && operands.any fun path =>
            path.isEmpty || isDirectory tree path)
    let isWanted (path : Text) : Bool :=
      let name := lastName path
      let covers (pattern : Text) : Bool := (Pattern.ofEscaped pattern).covers name
      ((options.values "include").isEmpty || (options.values "include").any covers) &&
        !(options.values "exclude").any covers
    let style : SearchStyle := ⟨options, hasName, limit, linesBefore, linesAfter⟩
    let skipsDirectories := options.value? "d" = some "skip".toList
    let one (state : Outcome × Bool × Bool) (path : Text) : Outcome × Bool × Bool :=
      let name : Text :=
        if path = "-" then (options.value? "label").getD "(standard input)" else path
      let (before, wasFound, isLater) := state
      let search (before : Outcome) (bytes : List UInt8) : Outcome × Bool × Bool :=
        let (text, isFound, isShown) := style.report criteria isLater name bytes
        (before.append (.ofBytes text), wasFound || isFound, isLater || isShown)
      match invocation.read path with
      | .ok bytes => search before bytes
      | .error errno =>
          if errno = .isDirectory ∧ skipsDirectories then state
          else
            let complaint : Outcome :=
              if options.has "s" then .ofStatus 2
              else .ofError ("grep: " ++ path ++ ": " ++ errno.text ++ "\n") 2
            if errno = .isDirectory then search (before.append complaint) []
            else (before.append complaint, wasFound, isLater)
    let all := operands.flatMap fun path =>
      if isRecursive ∧ (path.isEmpty ∨ isDirectory tree path) then
        let location := (tree.locate .lookup (if path.isEmpty then ['.'] else path)).toOption.getD []
        (filesBelow tree (tree.entries.length + 1) path location).filter isWanted
      else if (path ≠ ['-'] && !isWanted path) then []
      else [path]
    let (outcome, isFound, _) := all.foldl one ({}, false, false)
    let status :=
      if options.has "q" ∧ isFound then 0
      else if outcome.status = 2 then 2
      else if isFound then 0
      else 1
    let isRead := all.any isStandardInput
    ⟨tree, if isRead then [] else invocation.input, ⟨outcome.written, status⟩⟩

end Invocation

end AsmLens.Shell
