import AsmLens.Shell.Regex.Match
import AsmLens.Shell.Regex.Reader
import AsmLens.Shell.Utility.Basic

namespace AsmLens.Shell

/-- Why words are no expression that `expr` can evaluate. -/
inductive ExpressionError where
  | missingOperand
  | missingAfter (word : Text)
  | unexpected (word : Text)
  | noOperand
  | noParenthesisAfter (word : Text)
  | noParenthesisBut (word : Text)
  | notAnInteger
  | divisionByZero
  | regex (error : RegexError)

def ExpressionError.message : ExpressionError → Text
  | .missingOperand => "missing operand"
  | .missingAfter word => "syntax error: missing argument after " ++ curled word
  | .unexpected word => "syntax error: unexpected argument " ++ curled word
  | .noOperand => "syntax error: unexpected ')'"
  | .noParenthesisAfter word => "syntax error: expecting ')' after " ++ curled word
  | .noParenthesisBut word => "syntax error: expecting ')' instead of " ++ curled word
  | .notAnInteger => "non-integer argument"
  | .divisionByZero => "division by zero"
  | .regex error => error.message

namespace Expression

/-- A word as an integer of any size. -/
def integer? (word : Text) : Option Int :=
  match word with
  | '-' :: digits => (count? digits).map fun value => -Int.ofNat value
  | digits => (count? digits).map Int.ofNat

/-- Whether a value counts as nothing: it is empty or a row of zeros. -/
def isNull (word : Text) : Bool :=
  word.isEmpty ||
    (let digits := if word.head? = some '-' then word.tail else word
     !digits.isEmpty && digits.all (· = '0'))

def ofBool (value : Bool) : Text :=
  if value then "1" else "0"

/-- The operators between operands, the loosest first. -/
def levels : List (List Text) :=
  [["|"], ["&"], ["<", "<=", "=", "==", "!=", ">=", ">"], ["+", "-"], ["*", "/", "%"], [":"]]

/-- What a pattern finds at the start of a text: its first group, or else how many characters it takes. -/
def matched (text pattern : Text) : Except ExpressionError Text :=
  match Regex.read .basic pattern with
  | .error error => .error (.regex error)
  | .ok regex =>
      let hasGroup := regex.groupCount ≠ 0
      match regex.matchHere? {} none text with
      | none => .ok (if hasGroup then [] else "0")
      | some found =>
          .ok (if hasGroup then found.group 1 else Text.ofNat found.matched.length)

def combine (operator left right : Text) : Except ExpressionError Text :=
  let arithmetic (run : Int → Int → Except ExpressionError Int) : Except ExpressionError Text :=
    match integer? left, integer? right with
    | some first, some second => (run first second).map Text.ofInt
    | _, _ => .error .notAnInteger
  let ordering : Ordering :=
    match integer? left, integer? right with
    | some first, some second => compare first second
    | _, _ => if left = right then .eq else if Text.precedes left right then .lt else .gt
  if operator = "|" then
    .ok (if !isNull left then left else if !isNull right then right else "0")
  else if operator = "&" then .ok (if isNull left || isNull right then "0" else left)
  else if operator = ":" then matched left right
  else if operator = "+" then arithmetic fun a b => .ok (a + b)
  else if operator = "-" then arithmetic fun a b => .ok (a - b)
  else if operator = "*" then arithmetic fun a b => .ok (a * b)
  else if operator = "/" then
    arithmetic fun a b => if b = 0 then .error .divisionByZero else .ok (a.tdiv b)
  else if operator = "%" then
    arithmetic fun a b => if b = 0 then .error .divisionByZero else .ok (a.tmod b)
  else if operator = "<" then .ok (ofBool (ordering = .lt))
  else if operator = "<=" then .ok (ofBool (ordering ≠ .gt))
  else if operator = ">" then .ok (ofBool (ordering = .gt))
  else if operator = ">=" then .ok (ofBool (ordering ≠ .lt))
  else if operator = "!=" then .ok (ofBool (ordering ≠ .eq))
  else .ok (ofBool (ordering = .eq))

/-- The part of a text from a place on, of so many characters. -/
def part (text start length : Text) : Text :=
  match integer? start, integer? length with
  | some start, some length =>
      if start ≤ 0 ∨ length ≤ 0 then [] else (text.drop (start - 1).toNat).take length.toNat
  | _, _ => []

abbrev Step := Except ExpressionError (Text × List Text)

mutual

/-- An operand at the front of the words, which follow the last word that has been read. What need not be
evaluated is only read. As many steps are allowed. -/
def operand (evaluates : Bool) : Nat → Text → List Text → Step
  | 0, _, _ => .error .missingOperand
  | _, last, [] => .error (.missingAfter last)
  | steps + 1, _, word :: rest =>
      if word = "(" then do
        let (value, rest) ← binary evaluates steps levels word rest
        match rest with
        | [')'] :: rest => .ok (value, rest)
        | found :: _ => .error (.noParenthesisBut found)
        | [] => .error (.noParenthesisAfter value)
      else if word = ")" then .error .noOperand
      else if word = "+" then
        match rest with
        | literal :: rest => .ok (literal, rest)
        | [] => .error (.missingAfter word)
      else if word = "length" then do
        let (text, rest) ← operand evaluates steps word rest
        .ok (Text.ofNat text.length, rest)
      else if word = "match" then do
        let (text, rest) ← operand evaluates steps word rest
        let (pattern, rest) ← operand evaluates steps text rest
        let value ← if evaluates then matched text pattern else .ok []
        .ok (value, rest)
      else if word = "index" then do
        let (text, rest) ← operand evaluates steps word rest
        let (letters, rest) ← operand evaluates steps text rest
        let place := (text.findIdx? letters.contains).map (· + 1)
        .ok (Text.ofNat (place.getD 0), rest)
      else if word = "substr" then do
        let (text, rest) ← operand evaluates steps word rest
        let (start, rest) ← operand evaluates steps text rest
        let (length, rest) ← operand evaluates steps start rest
        .ok (part text start length, rest)
      else .ok (word, rest)

/-- Operands joined by operators of some levels, the loosest first. -/
def binary (evaluates : Bool) : Nat → List (List Text) → Text → List Text → Step
  | 0, _, _, _ => .error .missingOperand
  | steps + 1, [], last, words => operand evaluates steps last words
  | steps + 1, level :: tighter, last, words => do
      let (left, rest) ← binary evaluates steps tighter last words
      binaryFrom evaluates steps level tighter left rest

def binaryFrom (evaluates : Bool) : Nat → List Text → List (List Text) → Text → List Text → Step
  | 0, _, _, _, _ => .error .missingOperand
  | _, _, _, left, [] => .ok (left, [])
  | steps + 1, level, tighter, left, operator :: rest =>
      if !level.contains operator then .ok (left, operator :: rest)
      else do
        let needed :=
          if operator = "|" then isNull left else if operator = "&" then !isNull left else true
        let (right, rest) ← binary (evaluates && needed) steps tighter operator rest
        let value ← if evaluates then combine operator left right else .ok left
        binaryFrom evaluates steps level tighter value rest

end

def value (words : List Text) : Except ExpressionError Text := do
  if words.isEmpty then .error .missingOperand
  else
    match ← binary true (16 * words.length + 32) levels [] words with
    | (value, []) => .ok value
    | (_, word :: _) => .error (.unexpected word)

end Expression

def Invocation.expr (invocation : Invocation) : Effect :=
  let words :=
    match invocation.arguments with
    | ['-', '-'] :: words => words
    | words => words
  match Expression.value words with
  | .ok value =>
      invocation.report
        ⟨[(.output, Text.encode (value ++ "\n"))], if Expression.isNull value then 1 else 0⟩
  | .error .missingOperand => invocation.misuse ExpressionError.missingOperand.message 2
  | .error error => invocation.refuse error.message 2

end AsmLens.Shell
