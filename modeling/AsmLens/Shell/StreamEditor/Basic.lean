import AsmLens.Shell.Regex.Match
import AsmLens.Text.Octets

namespace AsmLens.Shell

/-- A regular expression with the way it looks at a text. Without one, the last one that was used is
meant. -/
structure EditPattern where
  regex : Option Regex
  matching : Matching

/-- What a line is told by. -/
inductive LineTest where
  | number (number : Nat)
  | every (first step : Nat)
  | last
  | finds (pattern : EditPattern)

/-- Where a range of lines ends: at a line, so many lines after its first one, at the next multiple of a
number, or at a line that is told in another way. -/
inductive RangeEnd where
  | number (number : Nat)
  | after (count : Nat)
  | multiple (factor : Nat)
  | test (test : LineTest)

/-- The lines that a command is for. -/
inductive Selector where
  | all
  | one (test : LineTest)
  | range (first : LineTest) (last : RangeEnd)

inductive LetterCase where
  | asIs
  | lower
  | upper
  deriving DecidableEq

namespace LetterCase

def apply : LetterCase → Text → Text
  | .asIs, text => text
  | .lower, text => text.map Char.toLower
  | .upper, text => text.map Char.toUpper

end LetterCase

/-- A part of what a match is replaced by: a text, and a group after it, with the case of all their letters
and that of the first one. -/
structure ReplacementPart where
  text : Text
  group : Option Nat
  letters : LetterCase := .asIs
  first : LetterCase := .asIs

namespace ReplacementPart

/-- Writes a text with a case for its first letter and one for the others. -/
def cased (first letters : LetterCase) (text : Text) : Text :=
  if first = .asIs then letters.apply text
  else first.apply (text.take 1) ++ letters.apply (text.drop 1)

/-- What a match is replaced by. A case for a first letter waits until there is a letter. -/
def expand (found : Found) : LetterCase → List ReplacementPart → Text
  | _, [] => []
  | waiting, part :: rest =>
      let first := if part.first = .asIs then waiting else part.first
      let lead := cased first part.letters part.text
      let left := if part.text.isEmpty then first else .asIs
      match part.group with
      | none => lead ++ expand found .asIs rest
      | some number =>
          let text := found.group number
          if text.isEmpty then
            lead ++ expand found (if part.first = .asIs then .asIs else left) rest
          else
            lead ++ cased left part.letters text ++ expand found .asIs rest

end ReplacementPart

/-- Replaces what a pattern finds: from some match on, and one or all of them. -/
structure Substitution where
  pattern : EditPattern
  replacement : List ReplacementPart
  isGlobal : Bool
  number : Nat
  printsBefore : Bool
  prints : Bool
  executes : Bool
  file : Option Text

namespace Substitution

/-- The highest group that a replacement asks for. -/
def groupCount (replacement : List ReplacementPart) : Nat :=
  replacement.foldl (fun count part => max count (part.group.getD 0)) 0

/-- The first byte of a text as a character, and what is behind it. -/
def splitByte (c : Char) (rest : Text) : Char × Text :=
  match Text.toOctets [c] with
  | first :: second :: others =>
      (Text.strayChar first, (second :: others).map Text.strayChar ++ rest)
  | _ => (c, rest)

/-- Replaces the matches in a text from its place on, where so many have been found before. As many steps
are allowed. A match of nothing right after another match does not count; behind one that counts, the
search goes on after the next byte. -/
def replaceFrom (substitution : Substitution) (regex : Regex) :
    Nat → Nat → Bool → Option Char → Text → Option Text
  | 0, _, _, _, _ => none
  | steps + 1, count, isAfterMatch, before, text =>
      match regex.find? substitution.pattern.matching before text with
      | none => none
      | some found =>
          let last := (found.skipped ++ found.matched).getLast?.orElse fun _ => before
          let isVoid := isAfterMatch && found.skipped.isEmpty && found.matched.isEmpty
          let isWanted := !isVoid && substitution.number ≤ count
          let shown : Text :=
            if isVoid then []
            else if isWanted then ReplacementPart.expand found .asIs substitution.replacement
            else found.matched
          let goesOn := !isWanted || substitution.isGlobal
          let count := if isVoid then count else count + 1
          let after : Option Text :=
            if !goesOn then none
            else
              match found.matched, found.rest with
              | [], [] => none
              | [], c :: rest =>
                  let (c, rest) := splitByte c rest
                  (substitution.replaceFrom regex steps count false (some c) rest).map (c :: ·)
              | _, rest => substitution.replaceFrom regex steps count true last rest
          if isWanted then some (found.skipped ++ shown ++ after.getD found.rest)
          else after.map fun after => found.skipped ++ shown ++ after

/-- A text with its matches replaced, if any is. -/
def replace? (substitution : Substitution) (regex : Regex) (text : Text) : Option Text :=
  substitution.replaceFrom regex ((Text.toOctets text).length + 2) 1 false none text

end Substitution

/-- When a command goes on at a label. -/
inductive BranchCondition where
  | always
  | replaced
  | notReplaced

inductive EditAction where
  | block (ending : Nat)
  | nothing
  | append (text : Text)
  | insert (text : Text)
  | change (text : Text)
  | branch (condition : BranchCondition) (label : Text)
  | delete
  | deleteFirst
  | print
  | printFirst
  | next
  | nextAppended
  | hold
  | holdAppended
  | recall
  | recallAppended
  | exchange
  | list (width : Option Nat)
  | lineNumber
  | fileName
  | quit (status : Nat)
  | quitSilently (status : Nat)
  | readFile (name : Text)
  | insertFile (name : Text)
  | readLine (name : Text)
  | writeFile (name : Text)
  | writeFirst (name : Text)
  | execute (command : Text)
  | clear
  | substitute (substitution : Substitution)
  | transliterate (pairs : List (Char × Char))

structure EditCommand where
  selector : Selector
  isNegated : Bool
  action : EditAction

/-- Commands in order, the places of the labels among them, and the files that they write. -/
structure EditScript where
  commands : Array EditCommand := #[]
  labels : List (Text × Nat) := []
  outputs : List Text := []
  isSilent : Bool := false

def EditScript.place (script : EditScript) (label : Text) : Nat :=
  if label.isEmpty then script.commands.size
  else
    ((script.labels.find? fun entry => entry.1 = label).map Prod.snd).getD script.commands.size

end AsmLens.Shell
