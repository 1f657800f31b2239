import AsmLens.FileTree.Walk
import AsmLens.Text.Number

namespace AsmLens.Shell

/-- Why the words of a test are no condition. -/
inductive ConditionError where
  | missingBracket
  | missingParenthesis
  | missingArgument (operator : Text)
  | unexpectedOperator (word : Text)
  | notANumber (word : Text)
  deriving DecidableEq, Repr

def ConditionError.message : ConditionError → Text
  | .missingBracket => "missing ]"
  | .missingParenthesis => "closing paren expected"
  | .missingArgument operator => operator ++ ": argument expected"
  | .unexpectedOperator word => word ++ ": unexpected operator"
  | .notANumber word => "Illegal number: " ++ word

namespace Condition

def unaryOperators : List Text :=
  ["-n", "-z", "-e", "-f", "-d", "-s", "-r", "-w", "-x", "-h", "-L", "-t", "-b", "-c", "-p", "-S",
    "-u", "-g", "-k", "-O", "-G"]

def binaryOperators : List Text :=
  ["=", "!=", "<", ">", "-eq", "-ne", "-lt", "-le", "-gt", "-ge", "-nt", "-ot", "-ef"]

/-- What a path names without following a link there. -/
def entryItself? (tree : FileTree) (path : Text) : Option Entry :=
  match tree.slot? path with
  | .ok (some location) => tree.get? location
  | _ => (tree.status path).toOption

def unary (tree : FileTree) (operator word : Text) : Bool :=
  let found? : Option Entry := (tree.status word).toOption
  if operator = "-n" then !word.isEmpty
  else if operator = "-z" then word.isEmpty
  else if operator = "-e" ∨ operator = "-r" ∨ operator = "-w" then found?.isSome
  else if operator = "-f" then
    found?.any fun
      | .file _ _ => true
      | _ => false
  else if operator = "-d" then found?.any Entry.isDirectory
  else if operator = "-s" then
    found?.any fun
      | .file bytes _ => !bytes.isEmpty
      | entry => entry.isDirectory
  else if operator = "-x" then
    found?.any fun
      | .file _ executable => executable
      | entry => entry.isDirectory
  else if operator = "-h" ∨ operator = "-L" then
    (entryItself? tree word).any fun
      | .link _ => true
      | _ => false
  else if operator = "-O" ∨ operator = "-G" then found?.isSome
  else false

/-- An integer between blanks, whatever its size. -/
def integer? (word : Text) : Option Int :=
  if word.all fun c => c.isDigit || "+- \t\n".toList.contains c then Text.readInt? word else none

def number (word : Text) : Except ConditionError Int :=
  match integer? word with
  | some value =>
      if value.toInt64.toInt = value then .ok value else .error (.notANumber word)
  | none => .error (.notANumber word)

/-- How two numbers compare. -/
def compare (operator : Text) (first second : Int) : Bool :=
  if operator = "-eq" then first = second
  else if operator = "-ne" then first ≠ second
  else if operator = "-lt" then first < second
  else if operator = "-le" then first ≤ second
  else if operator = "-gt" then first > second
  else first ≥ second

/-- The location of what a path leads to, if something is there. -/
def place? (tree : FileTree) (path : Text) : Option Location :=
  (tree.locate .lookup path).toOption.filter fun location => (tree.get? location).isSome

def isSameFile (tree : FileTree) (first second : Text) : Bool :=
  match place? tree first, place? tree second with
  | some first, some second => first = second
  | _, _ => false

/-- Whether the first of two files was written after the second. The entries of a tree are kept so that the
last one written comes first. -/
def isNewer (tree : FileTree) (first second : Text) : Bool :=
  match place? tree first, place? tree second with
  | some first, some second =>
      let age (location : Location) : Nat := tree.entries.findIdx fun entry => entry.1 = location
      age first < age second
  | _, _ => false

def binary (tree : FileTree) (left operator right : Text) : Except ConditionError Bool :=
  if operator = "=" then .ok (left = right)
  else if operator = "!=" then .ok (left ≠ right)
  else if operator = "<" then .ok (left ≠ right && Text.precedes left right)
  else if operator = ">" then .ok (left ≠ right && Text.precedes right left)
  else if operator = "-ef" then .ok (isSameFile tree left right)
  else if operator = "-nt" then .ok (isNewer tree left right)
  else if operator = "-ot" then .ok (isNewer tree right left)
  else do
    let first ← number left
    let second ← number right
    .ok (compare operator first second)

/-- Whether an operator is meant as an operand: nothing can follow it, or another operator does. -/
def isOperand (rest : List Text) : Bool :=
  match rest with
  | [] => true
  | [_] => false
  | next :: _ => binaryOperators.contains next

abbrev Step := Except ConditionError (Bool × List Text)

mutual

/-- A disjunction at the front of the words, and the words after it. As many steps are allowed. -/
def anyOf (tree : FileTree) : Nat → List Text → Step
  | 0, words => .ok (false, words)
  | steps + 1, words => do
      let (first, rest) ← allOf tree steps words
      match rest with
      | ['-', 'o'] :: rest =>
          let (second, rest) ← anyOf tree steps rest
          .ok (first || second, rest)
      | rest => .ok (first, rest)

def allOf (tree : FileTree) : Nat → List Text → Step
  | 0, words => .ok (false, words)
  | steps + 1, words => do
      let (first, rest) ← negation tree steps words
      match rest with
      | ['-', 'a'] :: rest =>
          let (second, rest) ← allOf tree steps rest
          .ok (first && second, rest)
      | rest => .ok (first, rest)

def negation (tree : FileTree) : Nat → List Text → Step
  | 0, words => .ok (false, words)
  | steps + 1, words =>
      match words with
      | ['!'] :: rest => do
          let (value, rest) ← negation tree steps rest
          .ok (!value, rest)
      | words => primary tree steps words

def primary (tree : FileTree) : Nat → List Text → Step
  | 0, words => .ok (false, words)
  | steps + 1, words =>
      match words with
      | [] => .ok (false, [])
      | ['('] :: next :: rest => do
          if next = ")" then
            .ok (false, rest)
          else
            match ← anyOf tree steps (next :: rest) with
            | (value, [')'] :: rest) => .ok (value, rest)
            | _ => .error .missingParenthesis
      | word :: rest =>
          if unaryOperators.contains word ∧ !isOperand rest then
            .ok (unary tree word (rest.headD []), rest.tail)
          else
            operand tree word rest

/-- A word, alone or compared with another one. -/
def operand (tree : FileTree) (word : Text) (rest : List Text) : Step :=
  match rest with
  | operator :: right :: rest =>
      if binaryOperators.contains operator then do
        .ok (← binary tree word operator right, rest)
      else
        .ok (!word.isEmpty, operator :: right :: rest)
  | [operator] =>
      if binaryOperators.contains operator then .error (.missingArgument operator)
      else .ok (!word.isEmpty, [operator])
  | [] => .ok (!word.isEmpty, [])

end

/-- A disjunction that takes all words. -/
def whole (tree : FileTree) (words : List Text) : Except ConditionError Bool := do
  let (value, rest) ← anyOf tree (5 * words.length + 5) words
  if rest.isEmpty then .ok value
  else .error (.unexpectedOperator (words.getD (words.length - rest.length - 1) []))

/-- Whether a condition holds. Up to four words are read by their number. -/
def holds (tree : FileTree) (words : List Text) : Except ConditionError Bool :=
  match words with
  | [] => .ok false
  | [left, operator, right] =>
      if binaryOperators.contains operator then binary tree left operator right
      else if left = "(" ∧ right = ")" then whole tree [operator]
      else if left = "!" then (whole tree [operator, right]).map (!·)
      else whole tree words
  | [first, second, third, fourth] =>
      if first = "(" ∧ fourth = ")" then whole tree [second, third]
      else if first = "!" then (holds tree [second, third, fourth]).map (!·)
      else whole tree words
  | words => whole tree words

/-- The condition that a command with this name asks about. -/
def ofCommand (tree : FileTree) (name : Text) (arguments : List Text) :
    Except ConditionError Bool :=
  if name.getLast? ≠ some '\x5b' then holds tree arguments
  else if arguments.getLast? = some (['\x5d'] : Text) then holds tree arguments.dropLast
  else .error .missingBracket

end Condition

end AsmLens.Shell
