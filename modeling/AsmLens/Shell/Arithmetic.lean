import AsmLens.Shell.Token

namespace AsmLens.Shell

/-- A part of an expression. -/
inductive Term where
  | number (value : Int)
  | name (letters : Text)
  | operator (symbol : Text)
  deriving DecidableEq, Repr

/-- Why an expression has no value. -/
inductive ArithmeticError where
  | lacksOperand
  | lacksParenthesis
  | lacksColon
  | goesOn
  | divisionByZero
  | notANumber (value : Text)
  deriving DecidableEq, Repr

namespace ArithmeticError

/-- The message about an expression that is written like this. -/
def message (expression : Text) (error : ArithmeticError) : Text :=
  let about (text : Text) : Text :=
    "arithmetic expression: " ++ text ++ ": \"" ++ expression ++ "\""
  match error with
  | .lacksOperand => about "expecting primary"
  | .lacksParenthesis => about "expecting ')'"
  | .lacksColon => about "expecting ':'"
  | .goesOn => about "expecting EOF"
  | .divisionByZero => about "division by zero"
  | .notANumber value => "Illegal number: " ++ value

end ArithmeticError

namespace Arithmetic

/-- The operators between two operands by how tight they bind, the loosest first. -/
def levels : List (List Text) :=
  [["||"], ["&&"], ["|"], ["^"], ["&"], ["==", "!="], ["<", "<=", ">", ">="], ["<<", ">>"],
    ["+", "-"], ["*", "/", "%"]]

/-- The operators that give a name a new value. -/
def assignments : List Text :=
  ["=", "+=", "-=", "*=", "/=", "%=", "&=", "|=", "^=", "<<=", ">>="]

def signs : List Text :=
  levels.flatten ++ assignments

def digit? (base : Nat) (c : Char) : Option Nat :=
  let value? : Option Nat :=
    if c.isDigit then some (c.toNat - '0'.toNat)
    else if c.isAlpha then some (c.toLower.toNat - 'a'.toNat + 10)
    else none
  value?.filter (· < base)

/-- The value of the digits at the start of a text, and the rest. What is too great counts as the greatest
value. -/
def leadingDigits (base : Nat) (text : Text) : Int × Text :=
  let digits := text.takeWhile fun c => (digit? base c).isSome
  let value := digits.foldl (fun value c => base * value + (digit? base c).getD 0) 0
  (min value 9223372036854775807, text.drop digits.length)

/-- The value of a row of digits as far as it goes, and the rest. Those that start with `0x` or `0` are of
base sixteen or eight. -/
def leadingNumber (text : Text) : Int × Text :=
  match text with
  | '0' :: x :: c :: rest =>
      if (x = 'x' ∨ x = 'X') ∧ (digit? 16 c).isSome then leadingDigits 16 (c :: rest)
      else leadingDigits 8 text
  | '0' :: _ => leadingDigits 8 text
  | text => leadingDigits 10 text

/-- Whether a text starts with a minus sign, and what is behind its sign. -/
def leadingSign : Text → Bool × Text
  | '-' :: digits => (true, digits)
  | '+' :: digits => (false, digits)
  | digits => (false, digits)

def isBlank (c : Char) : Bool :=
  " \t\n\x0b\x0c\r".toList.contains c

/-- The number that a value stands for, between blanks. -/
def number? (value : Text) : Option Int :=
  let start := value.dropWhile isBlank
  let digits := (leadingSign start).2
  let number := leadingNumber digits
  if start.isEmpty then some 0
  else if digits.head?.any Char.isDigit ∧ number.2.all isBlank then
    some (if (leadingSign start).1 then -number.1 else number.1)
  else none

/-- The terms of an expression, for which as many steps are allowed. -/
def terms : Nat → Text → List Term
  | 0, _ => []
  | _, [] => []
  | steps + 1, c :: rest =>
      if c = ' ' ∨ c = '\t' ∨ c = '\n' then terms steps rest
      else if c.isDigit then
        let (value, rest) := leadingNumber (c :: rest)
        .number value :: terms steps rest
      else if Token.isNameStart c then
        .name ((c :: rest).takeWhile Token.isNameChar) ::
          terms steps ((c :: rest).dropWhile Token.isNameChar)
      else
        let longest := [2, 1].find? fun count => signs.contains (c :: rest.take count)
        let count := longest.getD 0
        .operator (c :: rest.take count) :: terms steps (rest.drop count)

def ofBool (value : Bool) : Int :=
  if value then 1 else 0

def wrapped (value : Int) : Int :=
  value.toInt64.toInt

/-- The value of two operands. -/
def combine (symbol : Text) (left right : Int) : Except ArithmeticError Int :=
  if symbol = "+" then .ok (wrapped (left + right))
  else if symbol = "-" then .ok (wrapped (left - right))
  else if symbol = "*" then .ok (wrapped (left * right))
  else if symbol = "/" then
    if right = 0 then .error .divisionByZero else .ok (wrapped (left.tdiv right))
  else if symbol = "%" then
    if right = 0 then .error .divisionByZero else .ok (left.tmod right)
  else if symbol = "<" then .ok (ofBool (left < right))
  else if symbol = "<=" then .ok (ofBool (left ≤ right))
  else if symbol = ">" then .ok (ofBool (left > right))
  else if symbol = ">=" then .ok (ofBool (left ≥ right))
  else if symbol = "==" then .ok (ofBool (left = right))
  else if symbol = "!=" then .ok (ofBool (left ≠ right))
  else if symbol = "&&" then .ok (ofBool (left ≠ 0 ∧ right ≠ 0))
  else if symbol = "||" then .ok (ofBool (left ≠ 0 ∨ right ≠ 0))
  else if symbol = "&" then .ok (left.toInt64 &&& right.toInt64).toInt
  else if symbol = "|" then .ok (left.toInt64 ||| right.toInt64).toInt
  else if symbol = "^" then .ok (left.toInt64 ^^^ right.toInt64).toInt
  else if symbol = "<<" then .ok (left.toInt64 <<< right.toInt64).toInt
  else .ok (left.toInt64 >>> right.toInt64).toInt

/-- The values that names have got in an expression, the last one first. -/
abbrev Given := List (Text × Int)

/-- The value of a name: one that it has got here, or the one it has outside. -/
def valueOf (outside : Text → Option Text) (given : Given) (name : Text) :
    Except ArithmeticError Int :=
  match given.find? fun entry => entry.1 = name with
  | some (_, value) => .ok value
  | none =>
      let value := (outside name).getD []
      match number? value with
      | some number => .ok number
      | none => .error (.notANumber value)

/-- A value, the terms after it, and the values given by then. -/
abbrev Evaluation := Except ArithmeticError (Int × List Term × Given)

mutual

/-- An operand. Names and divisions count only where the value is asked for; as many steps are allowed. -/
def operand (outside : Text → Option Text) : Nat → Bool → List Term → Given → Evaluation
  | 0, _, _, _ => .error .lacksOperand
  | _ + 1, _, .number found :: rest, given => .ok (found, rest, given)
  | _ + 1, isAsked, .name letters :: rest, given => do
      let value ← if isAsked then valueOf outside given letters else .ok 0
      .ok (value, rest, given)
  | steps + 1, isAsked, .operator sign :: rest, given =>
      if sign = "(" then do
        match ← assignment outside steps isAsked rest given with
        | (found, .operator [')'] :: rest, given) => .ok (found, rest, given)
        | _ => .error .lacksParenthesis
      else if sign = "+" then operand outside steps isAsked rest given
      else if sign = "-" ∨ sign = "~" ∨ sign = "!" then do
        let (found, rest, given) ← operand outside steps isAsked rest given
        let value :=
          if sign = "-" then wrapped (-found) else if sign = "~" then -found - 1
          else ofBool (found = 0)
        .ok (value, rest, given)
      else .error .lacksOperand
  | _, _, [], _ => .error .lacksOperand

/-- Operands joined by operators of some levels, the loosest first. -/
def joined (outside : Text → Option Text) :
    Nat → Bool → List (List Text) → List Term → Given → Evaluation
  | 0, _, _, _, _ => .error .lacksOperand
  | steps + 1, isAsked, [], terms, given => operand outside steps isAsked terms given
  | steps + 1, isAsked, level :: tighter, terms, given => do
      let (left, rest, given) ← joined outside steps isAsked tighter terms given
      joinedFrom outside steps isAsked level tighter left rest given

def joinedFrom (outside : Text → Option Text) :
    Nat → Bool → List Text → List (List Text) → Int → List Term → Given → Evaluation
  | 0, _, _, _, _, _, _ => .error .lacksOperand
  | steps + 1, isAsked, level, tighter, left, terms, given =>
      match terms with
      | .operator symbol :: rest =>
          if level.contains symbol then do
            let isSettled := symbol = "&&" && left = 0 || symbol = "||" && left ≠ 0
            let (right, rest, given) ←
              joined outside steps (isAsked && !isSettled) tighter rest given
            let value ← if isAsked then combine symbol left right else .ok 0
            joinedFrom outside steps isAsked level tighter value rest given
          else
            .ok (left, terms, given)
      | _ => .ok (left, terms, given)

/-- A choice between two values by a third one. -/
def choice (outside : Text → Option Text) : Nat → Bool → List Term → Given → Evaluation
  | 0, _, _, _ => .error .lacksOperand
  | steps + 1, isAsked, terms, given => do
      match ← joined outside steps isAsked levels terms given with
      | (condition, .operator ['?'] :: rest, given) =>
          match ← assignment outside steps (isAsked && condition ≠ 0) rest given with
          | (first, .operator [':'] :: rest, given) => do
              let (second, rest, given) ←
                choice outside steps (isAsked && condition = 0) rest given
              .ok (if condition ≠ 0 then first else second, rest, given)
          | _ => .error .lacksColon
      | found => .ok found

/-- A value that a name may get. -/
def assignment (outside : Text → Option Text) : Nat → Bool → List Term → Given → Evaluation
  | 0, _, _, _ => .error .lacksOperand
  | steps + 1, isAsked, terms, given =>
      match terms with
      | .name letters :: .operator symbol :: rest =>
          if assignments.contains symbol then do
            let (right, rest, given) ← assignment outside steps isAsked rest given
            if !isAsked then .ok (right, rest, given)
            else do
              let value ←
                if symbol = "=" then .ok right
                else do
                  let left ← valueOf outside given letters
                  combine symbol.dropLast left right
              .ok (value, rest, (letters, value) :: given)
          else
            choice outside steps isAsked terms given
      | terms => choice outside steps isAsked terms given

end

/-- The value of an expression over the values of its names, and the values that names get. -/
def evaluate (outside : Text → Option Text) (text : Text) :
    Except ArithmeticError (Int × Given) := do
  let terms := terms (text.length + 1) text
  match ← assignment outside (16 * terms.length + 32) true terms [] with
  | (value, [], given) => .ok (value, given)
  | _ => .error .goesOn

end Arithmetic

end AsmLens.Shell
