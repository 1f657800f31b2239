import AsmLens.Shell.Regex.Reader
import AsmLens.Shell.StreamEditor.Basic
import AsmLens.Text.Octets

namespace AsmLens.Shell

inductive EditFault where
  | unknownCommand (c : Char)
  | missingCommand
  | unexpected (c : Char)
  | unmatchedBlock
  | blockEndHasAddress
  | commentHasAddress
  | labelHasAddress
  | missingLabel
  | doubledNegation
  | relativeStart
  | lineZero
  | oneAddress
  | extraCharacters
  | unterminatedAddress
  | unterminated (command : Char)
  | wideDelimiter
  | unequalLengths
  | missingFile
  | missingText
  | unknownFlag
  | repeatedFlag (name : Text)
  | zeroFlag
  | newerVersion
  | recursiveEscape
  | flagsOfEmptyPattern
  | noPattern
  | missingGroup (number : Nat)
  | pattern (error : RegexError)

namespace EditFault

def message : EditFault → Text
  | .unknownCommand c => "unknown command: \x60" ++ [c] ++ "'"
  | .missingCommand => "missing command"
  | .unexpected c => "unexpected \x60" ++ [c] ++ "'"
  | .unmatchedBlock => "unmatched \x60\x7b'"
  | .blockEndHasAddress => "\x60\x7d' doesn't want any addresses"
  | .commentHasAddress => "comments don't accept any addresses"
  | .labelHasAddress => ": doesn't want any addresses"
  | .missingLabel => "\":\" lacks a label"
  | .doubledNegation => "multiple \x60!'s"
  | .relativeStart => "invalid usage of +N or ~N as first address"
  | .lineZero => "invalid usage of line address 0"
  | .oneAddress => "command only uses one address"
  | .extraCharacters => "extra characters after command"
  | .unterminatedAddress => "unterminated address regex"
  | .unterminated command => "unterminated \x60" ++ [command] ++ "' command"
  | .wideDelimiter => "delimiter character is not a single-byte character"
  | .unequalLengths => "strings for \x60y' command are different lengths"
  | .missingFile => "missing filename in r/R/w/W commands"
  | .missingText => "expected \\ after \x60a', \x60c' or \x60i'"
  | .unknownFlag => "unknown option to \x60s'"
  | .repeatedFlag name => "multiple " ++ name ++ " options to \x60s' command"
  | .zeroFlag => "number option to \x60s' command may not be zero"
  | .newerVersion => "expected newer version of sed"
  | .recursiveEscape => "recursive escaping after \\c not allowed"
  | .flagsOfEmptyPattern => "cannot specify modifiers on empty regexp"
  | .noPattern => "no previous regular expression"
  | .missingGroup number =>
      "invalid reference \\" ++ Text.ofNat number ++ " on \x60s' command's RHS"
  | .pattern error => error.message

end EditFault

/-- What a part of a script is read from. -/
inductive EditSource where
  | expression (number : Nat)
  | file (name : Text)

/-- A fault with its place. -/
def EditSource.complain (source : EditSource) (offset line : Nat) (fault : EditFault) : Text :=
  match source with
  | .expression number =>
      "sed: -e expression #" ++ Text.ofNat number ++ ", char " ++ Text.ofNat offset ++ ": " ++
        fault.message ++ "\n"
  | .file name =>
      "sed: file " ++ name ++ " line " ++ Text.ofNat line ++ ": " ++ fault.message ++ "\n"

/-- A block that has not ended: the place of its command, and that in the script. -/
structure OpenBlock where
  command : Nat
  source : EditSource
  line : Nat

/-- A text whose end is still to come: what has been read of it, and the command that it is for. -/
structure OpenText where
  text : Text
  command : EditCommand
  action : Text → EditAction

/-- A script that is being read. -/
structure EditReader where
  source : EditSource
  whole : Text
  rest : Text
  style : RegexStyle
  isFirst : Bool := true
  script : EditScript := {}
  blocks : List OpenBlock := []
  jumps : List Text := []
  openText : Option OpenText := none

/-- Why a script is refused, with what status that ends, and the files that have been asked for until
then. -/
structure EditRefusal where
  message : Text
  status : Nat
  outputs : List Text

/-- Reads something from a script, or tells what is wrong with it. -/
abbrev Reading := StateT EditReader (Except EditRefusal)

namespace EditReader

def line (reader : EditReader) : Nat :=
  let passed := reader.whole.take (reader.whole.length - reader.rest.length)
  (passed.filter (· = '\n')).length + 1

def offset (reader : EditReader) : Nat :=
  (Text.toOctets reader.whole).length - (Text.toOctets reader.rest).length

def refusal (reader : EditReader) (message : Text) (status : Nat) : EditRefusal :=
  ⟨message, status, reader.script.outputs⟩

def refuse {α : Type} (fault : EditFault) : Reading α := fun reader =>
  .error (reader.refusal (reader.source.complain reader.offset reader.line fault) 1)

/-- Refuses a script without telling a place in it. -/
def refuseWholly {α : Type} (message : Text) : Reading α := fun reader =>
  .error (reader.refusal ("sed: " ++ message ++ "\n") 4)

/-- Refuses a character that has just been taken, of which only the first byte counts. -/
def refuseByte {α : Type} (c : Char) (fault : EditFault) : Reading α := fun reader =>
  let offset := reader.offset + 1 - (Text.toOctets [c]).length
  .error (reader.refusal (reader.source.complain offset reader.line fault) 1)

def peek : Reading (Option Char) := fun reader =>
  .ok (reader.rest.head?, reader)

def next : Reading (Option Char) := fun reader =>
  .ok (reader.rest.head?, { reader with rest := reader.rest.tail })

def skip : Reading Unit :=
  discard next

def takeWhile (test : Char → Bool) : Reading Text := fun reader =>
  .ok (reader.rest.takeWhile test, { reader with rest := reader.rest.dropWhile test })

def isBlank (c : Char) : Bool :=
  c = ' ' || c = '\t'

def isSpace (c : Char) : Bool :=
  isBlank c || ('\n' ≤ c && c ≤ '\r')

/-- The next character that is no blank. It is not taken. -/
def peekPastBlanks : Reading (Option Char) := do
  discard (takeWhile isBlank)
  peek

def number : Reading Nat := do
  return (Text.readNat? (← takeWhile Char.isDigit)).getD 0

/-- The value of digits in a base at the front of a text, as many as fit in a byte, and the text after
them. -/
def digits (base most : Nat) (text : Text) : Option (Nat × Text) :=
  let value? (c : Char) : Option Nat :=
    let value :=
      if c.isDigit then c.toNat - '0'.toNat
      else if c.isAlpha then c.toLower.toNat - 'a'.toNat + 10
      else 99
    if value < base then some value else none
  let found := (text.take most).takeWhile fun c => (value? c).isSome
  if found.isEmpty then none
  else
    some (found.foldl (fun total c => total * base + (value? c).getD 0) 0, text.drop found.length)

/-- The character of a byte. -/
def byteChar (value : Nat) : Char :=
  if value % 256 < 128 then Char.ofNat (value % 256) else Text.strayChar (value % 256).toUInt8

/-- The character that an escape stands for, and the text after it. -/
def escape? : Text → Option (Char × Text)
  | 'a' :: rest => some ('\x07', rest)
  | 'f' :: rest => some ('\x0c', rest)
  | 'n' :: rest => some ('\n', rest)
  | 'r' :: rest => some ('\r', rest)
  | 't' :: rest => some ('\t', rest)
  | 'v' :: rest => some ('\x0b', rest)
  | 'c' :: '\\' :: '\\' :: rest => some ('\x1c', rest)
  | 'c' :: c :: rest => some (byteChar (c.toUpper.toNat ^^^ 64), rest)
  | 'd' :: rest => (digits 10 3 rest).map fun (value, rest) => (byteChar value, rest)
  | 'o' :: rest => (digits 8 3 rest).map fun (value, rest) => (byteChar value, rest)
  | 'x' :: rest => (digits 16 2 rest).map fun (value, rest) => (byteChar value, rest)
  | _ => none

/-- Whether an escape that is to be a control character has another escape in it. -/
def hasRecursiveEscape : Text → Bool
  | '\\' :: 'c' :: '\\' :: c :: rest => c ≠ '\\' || hasRecursiveEscape rest
  | '\\' :: _ :: rest => hasRecursiveEscape rest
  | _ :: rest => hasRecursiveEscape rest
  | [] => false

/-- The bytes of some characters as characters of their own. -/
def joined (text : Text) : Text :=
  Text.ofOctets (Text.toOctets text)

/-- Text with its escapes replaced; a backslash before another character is dropped. As many steps are
allowed. -/
def unescape : Nat → Text → Text
  | 0, text => text
  | steps + 1, '\\' :: text =>
      match escape? text, text with
      | some (c, rest), _ => c :: unescape steps rest
      | none, c :: rest => c :: unescape steps rest
      | none, [] => []
  | steps + 1, c :: rest => c :: unescape steps rest
  | _ + 1, [] => []

def plainText (text : Text) : Text :=
  joined (unescape text.length text)

/-- The text of a regular expression with the escapes replaced that it does not know itself. As many
steps are allowed. -/
def unescapePattern : Nat → Text → Text
  | 0, text => text
  | steps + 1, '\\' :: text =>
      match escape? text, text with
      | some (c, rest), _ => c :: unescapePattern steps rest
      | none, c :: rest => '\\' :: c :: unescapePattern steps rest
      | none, [] => ['\\']
  | steps + 1, c :: rest => c :: unescapePattern steps rest
  | _ + 1, [] => []

/-- Where a text is in a set of characters: right behind its opening bracket, or behind the sign of
negation; among its members; or at the name of a class, which has begun, goes on, or may be at its end. -/
inductive SetPlace where
  | front
  | start
  | members
  | begun
  | named (mark : Char)
  | ending (mark : Char)

namespace SetPlace

def amongMembers (c : Char) : Option SetPlace :=
  if c = '\x5b' then some .begun else if c = '\x5d' then none else some .members

/-- The place after a character, or nothing when the set ends with it. -/
def advance? (place : SetPlace) (c : Char) : Option SetPlace :=
  match place with
  | .front =>
      if c = '^' then some .start else if c = '\x5d' then some .members else amongMembers c
  | .start => if c = '\x5d' then some .members else amongMembers c
  | .members => amongMembers c
  | .begun =>
      if c = '.' ∨ c = ':' ∨ c = '=' then some (.named c)
      else amongMembers c
  | .named mark => if c = mark then some (.ending mark) else some (.named mark)
  | .ending mark =>
      if c = '\x5b' then some (.ending mark)
      else if c = '\x5d' then some .members
      else some (.named mark)

end SetPlace

/-- The text up to a delimiter that has no backslash before it, or nothing if there is none in the line,
and what is left. In a pattern, a delimiter in a set of characters does not count. -/
def delimited (delimiter : Char) (isPattern : Bool) : Option SetPlace → Text → Option Text × Text
  | _, [] => (none, [])
  | some place, c :: rest =>
      if c = '\n' then (none, c :: rest)
      else
        let after := delimited delimiter isPattern (place.advance? c) rest
        (after.1.map (c :: ·), after.2)
  | none, '\\' :: c :: rest =>
      let after := delimited delimiter isPattern none rest
      if delimiter = '\\' then (some [], c :: rest)
      else if c = 'n' ∧ isPattern then (after.1.map ('\n' :: ·), after.2)
      else if c = '\n' ∨ (c = delimiter ∧ (isPattern ∨ c ≠ '&')) then
        (after.1.map (c :: ·), after.2)
      else
        (after.1.map fun text => '\\' :: c :: text, after.2)
  | none, c :: rest =>
      if c = delimiter then (some [], rest)
      else if c = '\n' then (none, c :: rest)
      else
        let set : Option SetPlace := if c = '\x5b' ∧ isPattern then some .front else none
        let after := delimited delimiter isPattern set rest
        (after.1.map (c :: ·), after.2)

/-- The text up to a delimiter. -/
def takeDelimited (delimiter : Char) (isPattern : Bool) (fault : EditFault) : Reading Text := do
  if 128 ≤ delimiter.toNat then
    refuseByte delimiter .wideDelimiter
  else
    let (text, rest) := delimited delimiter isPattern none (← get).rest
    modify fun reader => { reader with rest }
    match text with
    | some text => return text
    | none => refuse fault

/-- The pattern of a text, which asks for so many groups at most. -/
def pattern (text : Text) (matching : Matching) (groups : Nat) : Reading EditPattern := do
  if text.isEmpty then
    if matching.ignoresCase ∨ matching.hasLines then refuse .flagsOfEmptyPattern
    else return ⟨none, matching⟩
  else if hasRecursiveEscape text then refuse .recursiveEscape
  else
    let text := joined (unescapePattern text.length text)
    let style := (← get).style
    match Regex.read style text with
    | .error error => refuse (.pattern error)
    | .ok regex =>
        if RegexToken.hasStrayClass style (text.length + 1) text then
          refuseWholly "character class syntax is \x5b\x5b:space:\x5d\x5d, not \x5b:space:\x5d"
        else if regex.groupCount < groups then refuse (.missingGroup groups)
        else return ⟨some regex, matching⟩

/-- The letters after the pattern of an address. As many steps are allowed. -/
def addressFlags : Nat → Matching → Reading Matching
  | 0, matching => return matching
  | steps + 1, matching => do
      match ← peekPastBlanks with
      | some 'I' =>
          skip
          addressFlags steps { matching with ignoresCase := true }
      | some 'M' =>
          skip
          addressFlags steps { matching with hasLines := true }
      | _ => return matching

/-- What an address tells by itself or as the end of a range. -/
inductive Address where
  | test (test : LineTest)
  | ending (ending : RangeEnd)

def address? : Reading (Option Address) := do
  match ← peek with
  | some '/' | some '\\' =>
      let first ← next
      let second ← if first = some '/' then pure first else next
      match second with
      | none => refuse .unterminatedAddress
      | some delimiter =>
          let text ← takeDelimited delimiter true .unterminatedAddress
          let matching ← addressFlags (← get).rest.length {}
          return some (.test (.finds (← pattern text matching 0)))
  | some '$' =>
      skip
      return some (.test .last)
  | some '+' =>
      skip
      discard peekPastBlanks
      return some (.ending (.after (← number)))
  | some '~' =>
      skip
      discard peekPastBlanks
      return some (.ending (.multiple (← number)))
  | some c =>
      if c.isDigit then
        let first ← number
        match ← peekPastBlanks with
        | some '~' =>
            skip
            discard peekPastBlanks
            let step ← number
            return some (.test (if step = 0 then .number first else .every first step))
        | _ => return some (.test (.number first))
      else
        return none
  | none => return none

/-- Takes the next character that is no blank and refuses what is before it. -/
def refuseBeforeNext {α : Type} (fault : EditFault) : Reading α := do
  discard peekPastBlanks
  skip
  refuse fault

/-- The lines that a command is for, before its name. -/
def selector : Reading Selector := do
  match ← address? with
  | none => return .all
  | some (.ending _) => refuse .relativeStart
  | some (.test first) =>
      let isZero : Bool :=
        match first with
        | .number 0 => true
        | _ => false
      match ← peekPastBlanks with
      | some ',' =>
          skip
          discard peekPastBlanks
          match ← address? with
          | none => refuseBeforeNext (.unexpected ',')
          | some (.test (.finds pattern)) => return .range first (.test (.finds pattern))
          | some last =>
              if isZero then refuseBeforeNext .lineZero
              else
                return .range first <|
                  match last with
                  | .test (.number line) => .number line
                  | .test test => .test test
                  | .ending ending => ending
      | some 'r' => return .one first
      | _ => if isZero then refuseBeforeNext .lineZero else return .one first

/-- Whether the lines that a command is for are the other ones. -/
def negation : Reading Bool := do
  match ← peekPastBlanks with
  | some '!' =>
      skip
      match ← peekPastBlanks with
      | some '!' => refuseBeforeNext .doubledNegation
      | _ => return true
  | _ => return false

/-- The end of a command. -/
def finish : Reading Unit := do
  match ← peekPastBlanks with
  | none | some '\x7d' | some '#' => return
  | some c => if c = '\n' ∨ c = ';' then skip else refuseBeforeNext .extraCharacters

def label : Reading Text := do
  discard peekPastBlanks
  takeWhile fun c => !isSpace c && c ≠ ';' && c ≠ '\x7d'

def file : Reading Text := do
  discard peekPastBlanks
  let name ← takeWhile (· ≠ '\n')
  skip
  if name.isEmpty then refuse .missingFile else return name

/-- The name of a file that is written. -/
def outputFile : Reading Text := do
  let name ← file
  modify fun reader =>
    { reader with
      script := { reader.script with outputs := reader.script.outputs ++ [name] } }
  return name

/-- The parts of a text that replaces a match, after the part at work. As many steps are allowed. -/
def replacementParts : Nat → ReplacementPart → Text → List ReplacementPart
  | 0, part, _ => [part]
  | _ + 1, part, [] => [part]
  | steps + 1, part, '&' :: rest =>
      { part with group := some 0 } :: replacementParts steps ⟨[], none, part.letters, .asIs⟩ rest
  | steps + 1, part, '\\' :: c :: rest =>
      let goOn (letters first : LetterCase) : List ReplacementPart :=
        part :: replacementParts steps ⟨[], none, letters, first⟩ rest
      match c with
      | 'L' => goOn .lower .asIs
      | 'U' => goOn .upper .asIs
      | 'E' => goOn .asIs .asIs
      | 'l' => goOn part.letters .lower
      | 'u' => goOn part.letters .upper
      | c =>
          if c.isDigit then
            { part with group := some (c.toNat - '0'.toNat) } ::
              replacementParts steps ⟨[], none, part.letters, .asIs⟩ rest
          else
            let (found, rest) := (escape? (c :: rest)).getD (c, rest)
            replacementParts steps { part with text := part.text ++ [found] } rest
  | steps + 1, part, c :: rest =>
      replacementParts steps { part with text := part.text ++ [c] } rest

def replacement (text : Text) : List ReplacementPart :=
  (replacementParts (text.length + 1) ⟨[], none, .asIs, .asIs⟩ text).map fun part =>
    { part with text := joined part.text }

/-- Reads the letters after a substitution. As many steps are allowed. -/
def substitutionFlags : Nat → Substitution → Reading Substitution
  | 0, found => return found
  | steps + 1, found => do
      let matching := found.pattern.matching
      let withMatching (matching : Matching) : Substitution :=
        { found with pattern := { found.pattern with matching } }
      match ← peekPastBlanks with
      | none | some '\x7d' | some '#' => return found
      | some c =>
          if c.isDigit then
            let number ← number
            if found.number ≠ 0 then refuse (.repeatedFlag "number")
            else if number = 0 then refuse .zeroFlag
            else substitutionFlags steps { found with number }
          else
            skip
            match c with
            | '\n' | ';' => return found
            | 'i' | 'I' => substitutionFlags steps (withMatching { matching with ignoresCase := true })
            | 'm' | 'M' => substitutionFlags steps (withMatching { matching with hasLines := true })
            | 'e' => substitutionFlags steps { found with executes := true }
            | 'p' =>
                if found.prints ∨ found.printsBefore then refuse (.repeatedFlag "\x60p'")
                else
                  substitutionFlags steps
                    { found with prints := found.executes, printsBefore := !found.executes }
            | 'g' =>
                if found.isGlobal then refuse (.repeatedFlag "\x60g'")
                else substitutionFlags steps { found with isGlobal := true }
            | 'w' => return { found with file := some (← outputFile) }
            | _ => refuseByte c .unknownFlag

def substitution : Reading Substitution := do
  let fault := EditFault.unterminated 's'
  match ← next with
  | none => refuse fault
  | some delimiter =>
      let text ← takeDelimited delimiter true fault
      let written ← takeDelimited delimiter false fault
      if hasRecursiveEscape written then refuse .recursiveEscape
      else
        let replacement := replacement written
        let found ← substitutionFlags ((← get).rest.length + 1)
          ⟨⟨none, {}⟩, replacement, false, 0, false, false, false, none⟩
        let pattern ← pattern text found.pattern.matching (Substitution.groupCount replacement)
        return { found with
          pattern
          prints := found.prints || (found.printsBefore && !found.executes)
          printsBefore := found.printsBefore && found.executes }

def transliteration : Reading (List (Char × Char)) := do
  let fault := EditFault.unterminated 'y'
  match ← next with
  | none => refuse fault
  | some delimiter =>
      let source := plainText (← takeDelimited delimiter false fault)
      let target := plainText (← takeDelimited delimiter false fault)
      if source.length ≠ target.length then refuse .unequalLengths
      else
        finish
        return source.zip target

def add (command : EditCommand) : Reading Unit :=
  modify fun reader =>
    { reader with
      script := { reader.script with commands := reader.script.commands.push command } }

/-- The lines of a text up to one that has no backslash at its end, as they are written; whether the
text goes on after what there is; and what is left. -/
def writtenText : Text → Text × Bool × Text
  | [] => (['\n'], false, [])
  | ['\\'] => (['\n'], true, [])
  | '\\' :: c :: rest =>
      let (text, isOpen, rest) := writtenText rest
      ('\\' :: c :: text, isOpen, rest)
  | '\n' :: rest => (['\n'], false, rest)
  | c :: rest =>
      let (text, isOpen, rest) := writtenText rest
      (c :: text, isOpen, rest)

/-- Goes on with a text. Its command is complete when the text has ended. -/
def continueText (openText : OpenText) : Reading Unit := do
  let (text, isOpen, rest) := writtenText (← get).rest
  let whole := openText.text ++ text
  modify fun reader => { reader with rest }
  if isOpen then
    modify fun reader => { reader with openText := some { openText with text := whole } }
  else
    modify fun reader => { reader with openText := none }
    add { openText.command with action := openText.action (plainText whole) }

/-- The text of a command, in the rest of its line or behind a backslash. -/
def takeText (openText : OpenText) : Reading Unit := do
  match ← peek with
  | some '\\' =>
      skip
      match ← peek with
      | none => modify fun reader => { reader with openText := some openText }
      | some '\n' =>
          skip
          continueText openText
      | some _ => continueText openText
  | _ => continueText openText

/-- Whether a version is one whose scripts can be read. -/
def isKnownVersion (version : Text) : Bool :=
  match (Text.cut '.' version).mapM Text.readNat? with
  | some (major :: rest) => major < 4 || (major = 4 && rest.headD 0 ≤ 9)
  | _ => version.isEmpty

/-- Ends a block. -/
def closeBlock (selector : Selector) : Reading Unit := do
  match (← get).blocks with
  | [] => refuse (.unexpected '\x7d')
  | block :: blocks =>
      match selector with
      | .all =>
          finish
          modify fun reader =>
            let ending := reader.script.commands.size
            let commands := reader.script.commands.modify block.command fun command =>
              { command with action := .block ending }
            { reader with blocks, script := { reader.script with commands } }
      | _ => refuse .blockEndHasAddress

/-- What a letter does that takes nothing. -/
def plainAction? : Char → Option EditAction
  | '=' => some .lineNumber
  | 'd' => some .delete
  | 'D' => some .deleteFirst
  | 'F' => some .fileName
  | 'g' => some .recall
  | 'G' => some .recallAppended
  | 'h' => some .hold
  | 'H' => some .holdAppended
  | 'n' => some .next
  | 'N' => some .nextAppended
  | 'p' => some .print
  | 'P' => some .printFirst
  | 'x' => some .exchange
  | 'z' => some .clear
  | _ => none

def branchCondition? : Char → Option BranchCondition
  | 'b' => some .always
  | 't' => some .replaced
  | 'T' => some .notReplaced
  | _ => none

def textAction? : Char → Option (Text → EditAction)
  | 'a' => some .append
  | 'i' => some .insert
  | 'c' => some .change
  | _ => none

def isAll : Selector → Bool
  | .all => true
  | _ => false

/-- A number that a command may have. -/
def optionalNumber : Reading (Option Nat) := do
  match ← peekPastBlanks with
  | some c => if c.isDigit then return some (← number) else return none
  | none => return none

/-- What a letter does that takes something. -/
def action (selector : Selector) (c : Char) : Reading EditAction := do
  match c with
  | 's' => return .substitute (← substitution)
  | 'y' => return .transliterate (← transliteration)
  | 'r' => return .readFile (← file)
  | 'R' => return .readLine (← file)
  | 'w' => return .writeFile (← outputFile)
  | 'W' => return .writeFirst (← outputFile)
  | 'l' =>
      let width ← optionalNumber
      finish
      return .list width
  | 'q' | 'Q' =>
      match selector with
      | .range _ _ => refuse .oneAddress
      | _ =>
          let status := (← optionalNumber).getD 0
          finish
          return if c = 'q' then .quit status else .quitSilently status
  | c =>
      match plainAction? c, branchCondition? c with
      | some action, _ =>
          finish
          return action
      | none, some condition =>
          let label ← label
          modify fun reader => { reader with jumps := label :: reader.jumps }
          return .branch condition label
      | none, none =>
          let byte := (Text.toOctets [c]).headD 0
          refuseByte c (.unknownCommand (byteChar byte.toNat))

def command : Reading Unit := do
  let selector ← selector
  let isNegated ← negation
  let withAction (action : EditAction) : EditCommand := ⟨selector, isNegated, action⟩
  match ← next with
  | none => refuse .missingCommand
  | some '#' =>
      if !isAll selector then refuse .commentHasAddress
      else discard (takeWhile (· ≠ '\n'))
  | some ':' =>
      if !isAll selector then refuse .labelHasAddress
      else
        let label ← label
        if label.isEmpty then refuse .missingLabel
        else
          modify fun reader =>
            let place := reader.script.commands.size
            { reader with
              script := { reader.script with labels := (label, place) :: reader.script.labels } }
  | some 'v' =>
      if isKnownVersion (← label) then return else refuse .newerVersion
  | some '\x7b' =>
      let reader ← get
      let block : OpenBlock := ⟨reader.script.commands.size, reader.source, reader.line⟩
      add (withAction (.block 0))
      modify fun reader => { reader with blocks := block :: reader.blocks }
  | some '\x7d' => closeBlock selector
  | some 'e' =>
      match ← peekPastBlanks with
      | none | some '\n' => add (withAction (.execute []))
      | some _ => takeText ⟨[], withAction .nothing, .execute⟩
  | some c =>
      match textAction? c with
      | some action =>
          match ← peekPastBlanks with
          | none => refuse .missingText
          | some _ => takeText ⟨[], withAction .nothing, action⟩
      | none =>
          let action ← action selector c
          match selector, action with
          | .one (.number 0), .readFile name => add ⟨.one (.number 1), isNegated, .insertFile name⟩
          | _, _ => add (withAction action)

/-- Reads commands up to the end. As many steps are allowed. -/
def commands : Nat → Reading Unit
  | 0 => return
  | steps + 1 => do
      discard (takeWhile fun c => isSpace c || c = ';')
      match ← peek with
      | none => return
      | some _ =>
          command
          commands steps

/-- Reads a part of a script after those before it. -/
def part (reader : EditReader) (source : EditSource) (text : Text) :
    Except EditRefusal EditReader := do
  let isSilent := reader.script.isSilent || (reader.isFirst && text.take 2 = ['#', 'n'])
  let started := { reader with
    source
    whole := text
    rest := text
    isFirst := false
    script := { reader.script with isSilent } }
  let all : Reading Unit := do
    match (← get).openText with
    | some openText => continueText openText
    | none => pure ()
    commands (text.length + 1)
  let ((), reader) ← all started
  return reader

/-- The script that has been read, or what is missing in it. -/
def complete (reader : EditReader) : Except EditRefusal EditScript :=
  match reader.blocks with
  | block :: _ => .error (reader.refusal (block.source.complain 0 block.line .unmatchedBlock) 1)
  | [] =>
      let script : EditScript :=
        match reader.openText with
        | none => reader.script
        | some openText =>
            let command := { openText.command with
              action := openText.action openText.text }
            { reader.script with commands := reader.script.commands.push command }
      let isMissing (label : Text) : Bool :=
        !label.isEmpty && script.labels.all fun entry => entry.1 ≠ label
      match reader.jumps.find? isMissing with
      | some label =>
          .error (reader.refusal ("sed: can't find label for jump to \x60" ++ label ++ "'\n") 4)
      | none => .ok script

end EditReader

end AsmLens.Shell
