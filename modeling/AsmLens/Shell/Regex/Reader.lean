import AsmLens.Shell.Regex.Basic
import AsmLens.Text.Number

namespace AsmLens.Shell

/-- How regular expressions are written: with operators behind backslashes, where a repetition can be
repeated or not; with bare ones, which need an operand or are taken as they stand without one; or as in
a program with escapes of its own. -/
inductive RegexStyle where
  | basic
  | strict
  | extended
  | lenient
  | escaped
  deriving DecidableEq

/-- Whether operators stand behind backslashes. -/
def RegexStyle.isBasic : RegexStyle → Bool
  | .basic | .strict => true
  | .extended | .lenient | .escaped => false

inductive RegexError where
  | unmatchedGroup
  | strayGroupEnd
  | unmatchedBracket
  | unmatchedBrace
  | badInterval
  | badOperand
  | badRange
  | badClass
  | badCollation
  | badPattern
  | badReference
  | trailingBackslash
  | tooBig

def RegexError.message : RegexError → Text
  | .unmatchedGroup => "Unmatched ( or \\("
  | .strayGroupEnd => "Unmatched ) or \\)"
  | .unmatchedBracket => "Unmatched \x5b, \x5b^, \x5b:, \x5b., or \x5b="
  | .unmatchedBrace => "Unmatched \\\x7b"
  | .badInterval => "Invalid content of \\\x7b\\\x7d"
  | .badOperand => "Invalid preceding regular expression"
  | .badRange => "Invalid range end"
  | .badClass => "Invalid character class name"
  | .badCollation => "Invalid collation character"
  | .badPattern => "Invalid regular expression"
  | .badReference => "Invalid back reference"
  | .trailingBackslash => "Trailing backslash"
  | .tooBig => "Regular expression too big"

/-- A part of a regular expression as it is written. -/
inductive RegexToken where
  | oneOf (set : CharSet)
  | boundary (boundary : Boundary)
  | again (group : Nat)
  | repeated (least : Nat) (most : Option Nat)
  | openBrace
  | openGroup
  | closeGroup
  | alternation
  | lineStart
  | lineEnd

namespace RegexToken

def char (c : Char) : RegexToken :=
  .oneOf (.single c)

/-- The name between `[:` and `:]` or the like, and the text after it. -/
def named? (mark : Char) : Text → Option (Text × Text)
  | [] => none
  | c :: '\x5d' :: rest =>
      if c = mark then some ([], rest)
      else (named? mark ('\x5d' :: rest)).map fun (name, after) => (c :: name, after)
  | c :: rest => (named? mark rest).map fun (name, after) => (c :: name, after)

/-- The character that a letter after a backslash stands for in a program. -/
def escapedChar (c : Char) : Char :=
  match c with
  | 'n' => '\n'
  | 't' => '\t'
  | 'r' => '\r'
  | 'f' => '\x0c'
  | 'v' => '\x0b'
  | 'a' => '\x07'
  | 'b' => '\x08'
  | c => c

/-- A member of a set at the front of a text: a class, or a character. -/
def member (style : RegexStyle) :
    Text → Except RegexError (((Char → Bool) ⊕ Char) × Text)
  | '\x5b' :: ':' :: rest =>
      match named? ':' rest with
      | none => .error .unmatchedBracket
      | some (name, rest) =>
          match charClass? name with
          | some test => .ok (.inl test, rest)
          | none => .error .badClass
  | '\x5b' :: '=' :: rest => single '=' rest
  | '\x5b' :: '.' :: rest => single '.' rest
  | '\\' :: c :: rest =>
      if style = .escaped then .ok (.inr (escapedChar c), rest) else .ok (.inr '\\', c :: rest)
  | c :: rest => .ok (.inr c, rest)
  | [] => .error .unmatchedBracket
where
  single (mark : Char) (rest : Text) : Except RegexError (((Char → Bool) ⊕ Char) × Text) :=
    match named? mark rest with
    | some ([c], rest) => .ok (.inr c, rest)
    | some _ => .error .badCollation
    | none => .error .unmatchedBracket

/-- The members of a set up to its closing bracket, which can be the first of them itself. As many steps
are allowed. -/
def members (style : RegexStyle) :
    Nat → Bool → List (Char → Bool) → Text → Except RegexError (List (Char → Bool) × Text)
  | 0, _, _, _ => .error .unmatchedBracket
  | _, _, _, [] => .error .unmatchedBracket
  | steps + 1, isFirst, found, text =>
      if text.head? = some '\x5d' ∧ !isFirst then
        .ok (found, text.tail)
      else do
        match ← member style text with
        | (.inl test, rest) => members style steps false (test :: found) rest
        | (.inr low, '-' :: next :: rest) =>
            if next = '\x5d' then
              members style steps false ((· = low) :: found) ('-' :: next :: rest)
            else
              match ← member style (next :: rest) with
              | (.inl _, _) => .error .badRange
              | (.inr high, rest) =>
                  if high < low then .error .badRange
                  else members style steps false ((fun c => low ≤ c && c ≤ high) :: found) rest
        | (.inr c, rest) => members style steps false ((· = c) :: found) rest

/-- The set that the text after an opening bracket writes, and the text after it. -/
def set (style : RegexStyle) (text : Text) : Except RegexError (CharSet × Text) := do
  let (isNegated, inside) : Bool × Text :=
    match text with
    | '^' :: inside => (true, inside)
    | inside => (false, inside)
  if inside.isEmpty then .error .badPattern
  else
    let (tests, rest) ← members style (inside.length + 1) true [] inside
    .ok (⟨isNegated, tests⟩, rest)

/-- Whether a set of characters looks like the name of a class that is in no set: it starts and ends with
a colon. As many steps are allowed. -/
def hasStrayClass (style : RegexStyle) : Nat → Text → Bool
  | 0, _ => false
  | steps + 1, text =>
      match text with
      | [] => false
      | '\\' :: _ :: rest => hasStrayClass style steps rest
      | '\x5b' :: rest =>
          let inside : Text := if rest.head? = some '^' then rest.tail else rest
          let named := (inside.takeWhile (· ≠ '\x5d')).drop 1
          (inside.head? = some ':' && 1 < named.length && named.getLast? = some ':') ||
            match set style rest with
            | .ok (_, after) => hasStrayClass style steps after
            | .error _ => false
      | _ :: rest => hasStrayClass style steps rest

/-- What a letter after a backslash stands for besides itself. -/
def escape? (c : Char) : Option RegexToken :=
  let isSpace (c : Char) : Bool := " \t\n\x0b\x0c\r".toList.contains c
  match c with
  | 'w' => some (.oneOf ⟨false, [isWordChar]⟩)
  | 'W' => some (.oneOf ⟨true, [isWordChar]⟩)
  | 's' => some (.oneOf ⟨false, [isSpace]⟩)
  | 'S' => some (.oneOf ⟨true, [isSpace]⟩)
  | 'b' => some (.boundary .wordEdge)
  | 'B' => some (.boundary .inside)
  | '<' => some (.boundary .wordStart)
  | '>' => some (.boundary .wordEnd)
  | '\x60' => some (.boundary .textStart)
  | '\'' => some (.boundary .textEnd)
  | c => if c.isDigit && c ≠ '0' then some (.again (c.toNat - '0'.toNat)) else none

/-- What a character stands for as an operator. -/
def operator? (c : Char) : Option RegexToken :=
  match c with
  | '(' => some .openGroup
  | ')' => some .closeGroup
  | '|' => some .alternation
  | '\x7b' => some .openBrace
  | '+' => some (.repeated 1 none)
  | '?' => some (.repeated 0 (some 1))
  | _ => none

/-- The first token of a text, and the text after it. -/
def next (style : RegexStyle) (c : Char) (rest : Text) : Except RegexError (RegexToken × Text) :=
  let bare : RegexToken :=
    if style.isBasic || (style = .escaped && c = '\x7b') then char c
    else (operator? c).getD (char c)
  match c, rest with
  | '\x5b', rest => do
      let (found, rest) ← set style rest
      .ok (.oneOf found, rest)
  | '\\', [] => .error .trailingBackslash
  | '\\', c :: rest =>
      if style = .escaped then .ok (char (escapedChar c), rest)
      else
        match escape? c with
        | some token => .ok (token, rest)
        | none => .ok ((if style.isBasic then operator? c else none).getD (char c), rest)
  | '.', rest => .ok (.oneOf .all, rest)
  | '*', rest => .ok (.repeated 0 none, rest)
  | '^', rest => .ok (.lineStart, rest)
  | '$', rest => .ok (.lineEnd, rest)
  | _, rest => .ok (bare, rest)

end RegexToken

/-- What is left of an expression, how many groups have begun, and which ones are complete. -/
structure RegexRest where
  text : Text
  groups : Nat := 0
  complete : List Nat := []

namespace Regex

/-- How often a repetition may ask for its operand. -/
def repetitionLimit : Nat := 32767

/-- The bounds between braces, and the text after them. -/
def bounds (style : RegexStyle) (text : Text) : Except RegexError (Nat × Option Nat × Text) :=
  let ending : Text := if style.isBasic then "\\\x7d" else "\x7d"
  let low := text.takeWhile Char.isDigit
  let afterLow := text.drop low.length
  let least := (Text.readNat? low).getD 0
  let finish (most : Option Nat) (rest : Text) : Except RegexError (Nat × Option Nat × Text) :=
    if ending.isPrefixOf rest then
      if most.any (· < least) then .error .badInterval
      else if repetitionLimit < most.getD least then .error .tooBig
      else .ok (least, most, rest.drop ending.length)
    else if rest.isEmpty ∨ rest = "\\" then .error .unmatchedBrace
    else .error .badInterval
  match afterLow with
  | ',' :: rest =>
      let high := rest.takeWhile Char.isDigit
      finish (if high.isEmpty then none else Text.readNat? high) (rest.drop high.length)
  | rest =>
      if low.isEmpty then .error (if rest.isEmpty then .unmatchedBrace else .badInterval)
      else finish (some least) rest

/-- Whether an alternative of an expression ends here. -/
def endsHere (style : RegexStyle) (text : Text) : Bool :=
  match text with
  | [] => true
  | c :: rest =>
      if style.isBasic then c = '\\' && (rest.head? = some ')' || rest.head? = some '|')
      else c = ')' || c = '|'

mutual

/-- Alternatives at some depth of groups. As many steps are allowed. -/
def alternatives (style : RegexStyle) : Nat → Nat → RegexRest → Except RegexError (Regex × RegexRest)
  | 0, _, _ => .error .tooBig
  | steps + 1, depth, rest => do
      let (first, rest) ← pieces style steps depth true .empty rest
      match rest.text with
      | [] => .ok (first, rest)
      | c :: after =>
          match ← RegexToken.next style c after with
          | (.alternation, text) =>
              let (second, rest) ← alternatives style steps depth { rest with text }
              .ok (.either first second, rest)
          | _ => .ok (first, rest)

/-- The pieces of an alternative after those that have been read. It matters whether there are any. -/
def pieces (style : RegexStyle) :
    Nat → Nat → Bool → Regex → RegexRest → Except RegexError (Regex × RegexRest)
  | 0, _, _, _, _ => .error .tooBig
  | steps + 1, depth, isFirst, done, rest =>
      match rest.text with
      | [] => .ok (done, rest)
      | c :: after => do
          let (token, text) ← RegexToken.next style c after
          let next := { rest with text }
          let literal : RegexRest → Except RegexError (Regex × RegexRest) := fun next =>
            repetitions style steps depth done (.oneOf (.single (if c = '\\' then after.headD c else c)))
              next
          match token with
          | .alternation => .ok (done, rest)
          | .closeGroup =>
              if depth ≠ 0 then .ok (done, rest)
              else if style = .lenient ∨ style = .escaped then literal next
              else .error .strayGroupEnd
          | .openGroup =>
              let number := rest.groups + 1
              let (body, inner) ← alternatives style steps (depth + 1) { next with groups := number }
              match inner.text with
              | [] => .error .unmatchedGroup
              | c :: after =>
                  match ← RegexToken.next style c after with
                  | (.closeGroup, text) =>
                      repetitions style steps depth done (.group number body)
                        { inner with text, complete := number :: inner.complete }
                  | _ => .error .unmatchedGroup
          | .oneOf set => repetitions style steps depth done (.oneOf set) next
          | .boundary edge =>
              pieces style steps depth false (.both done (.boundary edge)) next
          | .again number =>
              if rest.complete.contains number then
                repetitions style steps depth done (.again number) next
              else
                .error .badReference
          | .lineStart =>
              if isFirst || !style.isBasic then
                pieces style steps depth false (.both done (.boundary .lineStart)) next
              else
                literal next
          | .lineEnd =>
              if !style.isBasic || endsHere style next.text then
                pieces style steps depth false (.both done (.boundary .lineEnd)) next
              else
                literal next
          | .repeated _ _ =>
              match style with
              | .basic | .strict => literal next
              | .extended | .escaped => .error .badOperand
              | .lenient => pieces style steps depth isFirst done next
          | .openBrace =>
              match style with
              | .basic => literal next
              | .strict | .extended => .error .badOperand
              | .lenient =>
                  match bounds style next.text with
                  | .ok (_, _, text) =>
                      pieces style steps depth isFirst done { next with text }
                  | .error _ => literal next
              | .escaped => literal next

/-- The repetitions after a piece, and the pieces after them. -/
def repetitions (style : RegexStyle) :
    Nat → Nat → Regex → Regex → RegexRest → Except RegexError (Regex × RegexRest)
  | 0, _, _, _, _ => .error .tooBig
  | steps + 1, depth, done, piece, rest => do
      let goOn : Except RegexError (Regex × RegexRest) :=
        pieces style steps depth false (.both done piece) rest
      let isRepeated : Bool :=
        match piece with
        | .repeated _ _ _ => true
        | _ => false
      if style = .strict ∧ isRepeated ∧
          (rest.text.head? = some '*' ∨ rest.text.take 2 = ['\\', '\x7b']) then
        .error .badOperand
      else match rest.text with
      | [] => goOn
      | c :: after =>
          match RegexToken.next style c after with
          | .ok (.repeated least most, text) =>
              repetitions style steps depth done (.repeated piece least most) { rest with text }
          | .ok (.openBrace, text) =>
              match bounds style text with
              | .ok (least, most, text) =>
                  repetitions style steps depth done (.repeated piece least most) { rest with text }
              | .error error =>
                  if style = .lenient then
                    repetitions style steps depth (.both done piece) (.oneOf (.single c))
                      { rest with text }
                  else
                    .error error
          | _ => goOn

end

/-- What is to be said about operators without anything to work on, where there is nothing yet to work
on or not. As many steps are allowed. -/
def idleOperators : Nat → Bool → Text → List Text
  | 0, _, _ => []
  | steps + 1, isStart, text =>
      let tell (operator : Text) (rest : List Text) : List Text :=
        if isStart then (operator ++ " at start of expression") :: rest else rest
      match text with
      | [] => []
      | '\\' :: _ :: rest => idleOperators steps false rest
      | '\x5b' :: rest =>
          match RegexToken.set .lenient rest with
          | .ok (_, after) => idleOperators steps false after
          | .error _ => []
      | '\x7b' :: rest =>
          match bounds .lenient rest with
          | .ok (_, _, after) =>
              tell "\x7b...\x7d" (idleOperators steps false after)
          | .error _ => idleOperators steps false rest
      | c :: rest =>
          match c with
          | '(' | '|' | '\n' => idleOperators steps true rest
          | '^' | '$' => idleOperators steps isStart rest
          | '*' | '+' | '?' => tell [c] (idleOperators steps isStart rest)
          | _ => idleOperators steps false rest

/-- Reads a regular expression. -/
def read (style : RegexStyle) (text : Text) : Except RegexError Regex := do
  let (regex, _) ← alternatives style (4 * text.length + 8) 0 { text }
  .ok regex

end Regex

end AsmLens.Shell
