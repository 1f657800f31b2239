import AsmLens.Shell.Arithmetic
import AsmLens.Shell.Machine
import AsmLens.Shell.Pattern

namespace AsmLens.Shell

/-- Words under construction: the finished ones, the one that has begun, and whether a blank has just ended
one. -/
structure Fields where
  finished : List (List MarkedChar) := []
  current : Option (List MarkedChar) := none
  isBlankEnded : Bool := false

namespace Fields

def add (fields : Fields) (text : Text) (isQuoted : Bool) : Fields :=
  { fields with
    current := some (fields.current.getD [] ++ text.map fun c => (c, isQuoted))
    isBlankEnded := false }

def close (fields : Fields) : Fields :=
  ⟨fields.finished ++ fields.current.toList, none, false⟩

/-- Adds a text that falls apart at separators. Those that are not blank end a word each, even an empty
one, unless blanks before them have ended it. -/
def addSplit (fields : Fields) (separators text : Text) : Fields :=
  text.foldl
    (fun (fields : Fields) c =>
      if !separators.contains c then fields.add [c] false
      else if c = ' ' ∨ c = '\t' ∨ c = '\n' then
        { fields.close with isBlankEnded := fields.isBlankEnded || fields.current.isSome }
      else if fields.isBlankEnded then { fields with isBlankEnded := false }
      else (fields.add [] false).close)
    fields

/-- Adds texts that are words of their own, but for the ends of the first and the last one. -/
def addAll (addOne : Fields → Text → Fields) (fields : Fields) : List Text → Fields
  | [] => fields
  | [last] => addOne fields last
  | text :: texts => addAll addOne (addOne fields text).close texts

def joined (fields : Fields) : List MarkedChar :=
  [(' ', true)].intercalate fields.close.finished

end Fields

namespace Machine

/-- What a script that starts at a line writes, and the machine after it. -/
abbrev Capture := Machine → Nat → Text → Machine × Text

abbrev Expansion := Machine × Fields

/-- Adds texts that are words of their own, and fall apart unless they are quoted. -/
def addTexts (machine : Machine) (fields : Fields) (texts : List Text) (isQuoted : Bool) : Fields :=
  fields.addAll
    (fun fields text =>
      if isQuoted then fields.add text true else fields.addSplit machine.separators text)
    texts

/-- Adds the value of a parameter. -/
def addValue (machine : Machine) (splits : Bool) (fields : Fields) (name value : Text)
    (isQuoted : Bool) : Fields :=
  if splits then
    if name = "*" ∧ isQuoted then
      fields.add (Text.join (machine.separators.take 1) machine.parameters) true
    else if name = "@" ∨ name = "*" then machine.addTexts fields machine.parameters isQuoted
    else machine.addTexts fields [value] isQuoted
  else
    fields.add value isQuoted

/-- A word in which a tilde at the start stands for the home directory, and one behind a colon, too, if
that is asked for. -/
def withHome (machine : Machine) (hasColons : Bool) (word : Word) : Word :=
  replace true word
where
  isEnd : Word → Bool
    | [] => true
    | .text [c] false :: _ => c = '/' || (hasColons && c = ':')
    | _ => false
  plainLetter? : Piece → Option Char
    | .text [c] false => some c
    | _ => none
  home? (name : Text) : Option Text :=
    if name.isEmpty then machine.value? "HOME"
    else if name = "root" then some "/root"
    else none
  replace : Bool → Word → Word
    | _, [] => []
    | isStart, piece :: rest =>
        let others := replace (hasColons && plainLetter? piece = some ':') rest
        if isStart && plainLetter? piece = some '~' then
          let isLetter (piece : Piece) : Bool := (plainLetter? piece).any Char.isAlpha
          let name := rest.takeWhile isLetter
          let after := rest.drop name.length
          match isEnd after, home? (name.filterMap plainLetter?) with
          | true, some home => .text home true :: others.drop name.length
          | _, _ => piece :: others
        else
          piece :: others

/-- How deep expansions may stand inside one another. -/
def nestingLimit : Nat := 64

/-- Expands a piece of a word, in which as many expansions may stand inside one another. -/
def expandPiece (capture : Capture) : Nat → Bool → Expansion → Piece → Expansion
  | 0, _, expansion, _ => expansion
  | nesting + 1, splits, (machine, fields), piece =>
      match machine.isRunning, piece with
      | false, _ => (machine, fields)
      | true, .text value isQuoted =>
          (machine, if value.isEmpty && !isQuoted then fields else fields.add value isQuoted)
      | true, .command line script isQuoted =>
          let (after, output) := capture machine line script
          let value := (output.reverse.dropWhile (· = '\n')).reverse.filter (· ≠ '\x00')
          (after, after.addValue splits fields [] value isQuoted)
      | true, .arithmetic expression isQuoted =>
          let (after, operand) :=
            expression.foldl (expandPiece capture nesting false) (machine, {})
          let text := operand.joined.map Prod.fst
          match after.isRunning, Arithmetic.evaluate after.value? text with
          | false, _ => (after, fields)
          | true, .ok (value, given) =>
              let assigned := given.reverse.foldl
                (fun (machine : Machine) entry =>
                  if machine.isRunning then machine.assignHere entry.1 (Text.ofInt entry.2)
                  else machine)
                after
              (assigned, fields.add (Text.ofInt value) isQuoted)
          | true, .error error => (after.abortHere (error.message text), fields)
      | true, .parameter name change operand isQuoted =>
          let value? := machine.value? name
          let isAll : Bool := name = "@" || name = "*"
          let lacks (orEmpty : Bool) : Bool :=
            match value? with
            | none => orEmpty || !isAll
            | some value => orEmpty && value.isEmpty
          let whenUnset (otherwise : Expansion) : Expansion :=
            if machine.settings.has 'u' ∧ !isAll then
              (machine.abortHere (name ++ ": parameter not set"), fields)
            else otherwise
          let asIs : Expansion :=
            match value? with
            | none =>
                whenUnset
                  (machine, if isQuoted ∧ name ≠ "@" then fields.add [] true else fields)
            | some value => (machine, machine.addValue splits fields name value isQuoted)
          let withOperand : Expansion :=
            (if isQuoted then operand else machine.withHome false operand).foldl
              (fun expansion piece =>
                match piece with
                | .text value false =>
                    (expansion.1, if splits then expansion.2.addSplit expansion.1.separators value
                      else expansion.2.add value false)
                | piece => expandPiece capture nesting splits expansion piece)
              (machine, fields)
          let operandAlone : Expansion :=
            (if isQuoted then operand else machine.withHome false operand).foldl
              (expandPiece capture nesting false) (machine, {})
          let cut (one : Pattern → Text → Text) (all : Pattern → List Text → List Text) :
              Expansion :=
            if value?.isNone ∧ !isAll then asIs
            else
              let (after, marked) := operandAlone
              let pattern := Pattern.ofMarked marked.joined
              let isSpread : Bool := name = "@" || (name = "*" && !isQuoted)
              if splits ∧ isSpread then
                (after, after.addTexts fields (all pattern after.parameters) isQuoted)
              else
                let value :=
                  if name = "*" ∧ isQuoted then
                    Text.join (after.separators.take 1) after.parameters
                  else value?.getD []
                (after, after.addValue splits fields [] (one pattern value) isQuoted)
          match change with
          | .asIs => asIs
          | .length =>
              let counted (value : Text) : Expansion :=
                (machine, fields.add (Text.ofNat value.byteLength) isQuoted)
              value?.elim (whenUnset (counted [])) counted
          | .otherwise orEmpty => if lacks orEmpty then withOperand else asIs
          | .instead orEmpty => if lacks orEmpty then (machine, fields) else withOperand
          | .assign orEmpty =>
              if lacks orEmpty then
                let (after, found) := operandAlone
                let value := found.joined.map Prod.fst
                if after.isRunning then
                  (after.assignHere name value, after.addValue splits fields name value isQuoted)
                else (after, fields)
              else
                asIs
          | .demand orEmpty =>
              if lacks orEmpty then
                let (after, found) := operandAlone
                let message : Text :=
                  if !operand.isEmpty then found.joined.map Prod.fst
                  else if orEmpty then "parameter not set or null"
                  else "parameter not set"
                (if after.isRunning then after.abortHere (name ++ ": " ++ message) else after, fields)
              else
                asIs
          | .cutStart longest =>
              cut (fun pattern => pattern.cutStart longest) (fun pattern =>
                pattern.cutStartOfAll longest)
          | .cutEnd longest =>
              cut (fun pattern => pattern.cutEnd longest) (fun pattern => pattern.cutEndOfAll longest)
          | .unreadable => (machine.abortHere "Bad substitution", fields)

/-- The paths that a word with patterns stands for: as many parts of a path are still to come. -/
def matching (tree : FileTree) : List Text → List (List MarkedChar) → List Text
  | paths, [] => paths
  | paths, part :: parts =>
      let next := paths.flatMap fun path =>
        if Pattern.isPattern part then
          let pattern := Pattern.ofMarked part
          let showsHidden := part.head? = some ('.', true) || part.head? = some ('.', false)
          match tree.locate .lookup (if path.isEmpty then ['.'] else path) with
          | .ok directory =>
              let names := ['.'] :: ['.', '.'] :: namesIn tree directory
              (names.filter fun name =>
                pattern.covers name && (showsHidden || name.head? ≠ some '.')).map (path ++ ·)
          | .error _ => []
        else
          [path ++ part.map Prod.fst]
      matching tree (if parts.isEmpty then next else next.map (· ++ ['/'])) parts

def partsOf (word : List MarkedChar) : List (List MarkedChar) :=
  word.foldr
    (fun marked parts =>
      match parts with
      | [] => [[marked]]
      | part :: parts =>
          if marked.1 = '/' then [] :: part :: parts else (marked :: part) :: parts)
    [[]]

/-- The words that a word becomes when its patterns are matched with the file tree. -/
def matched (machine : Machine) (word : List MarkedChar) : List Text :=
  let literal := word.map Prod.fst
  let tree := machine.tree
  if Pattern.isPattern word ∧ !machine.settings.has 'f' then
    let found := (matching tree [[]] (partsOf word)).filter fun path =>
      (Condition.entryItself? tree path).isSome
    if found.isEmpty then [literal] else found
  else
    [literal]

/-- The words that words of a script become. -/
def expand (capture : Capture) (machine : Machine) (words : List Word) : Machine × List Text :=
  words.foldl
    (fun (before : Machine × List Text) word =>
      let (after, fields) :=
        (before.1.withHome false word).foldl (expandPiece capture nestingLimit true) (before.1, {})
      (after, before.2 ++ fields.close.finished.flatMap after.matched))
    (machine, [])

/-- The one word that a word of a script becomes where it cannot fall apart. -/
def expandWhole (capture : Capture) (machine : Machine) (word : Word) :
    Machine × List MarkedChar :=
  let (after, fields) :=
    (machine.withHome false word).foldl (expandPiece capture nestingLimit false) (machine, {})
  (after, fields.joined)

def expandText (capture : Capture) (machine : Machine) (word : Word) : Machine × Text :=
  let (after, marked) := machine.expandWhole capture word
  (after, marked.map Prod.fst)

end Machine

end AsmLens.Shell
