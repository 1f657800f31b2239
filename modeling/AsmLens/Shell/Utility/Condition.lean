import AsmLens.Shell.Condition
import AsmLens.Shell.Utility.Basic

namespace AsmLens.Shell

/-- Why the words of the program `test` are no condition. -/
inductive TestError where
  | missingBracket
  | missingAfter (word : Text)
  | extra (word : Text)
  | noBinary (word : Text)
  | noUnary (word : Text)
  | noInteger (word : Text)
  | noParenthesis (found : Option Text)

def TestError.message : TestError → Text
  | .missingBracket => "missing " ++ curled ['\x5d']
  | .missingAfter word => "missing argument after " ++ curled word
  | .extra word => "extra argument " ++ curled word
  | .noBinary word => curled word ++ ": binary operator expected"
  | .noUnary word => curled word ++ ": unary operator expected"
  | .noInteger word => "invalid integer " ++ curled word
  | .noParenthesis none => curled ")" ++ " expected"
  | .noParenthesis (some found) => curled ")" ++ " expected, found " ++ curled found

namespace Test

def binaryOperators : List Text :=
  ["=", "==", "!=", "-nt", "-ot", "-ef", "-eq", "-ne", "-lt", "-le", "-gt", "-ge"]

def isUnary (word : Text) : Bool :=
  match word with
  | ['-', letter] => "erwxGLOSNbcdfghkpstunz".toList.contains letter
  | _ => false

/-- Whether a word looks like an operator of one operand: a dash and a letter. -/
def looksUnary (word : Text) : Bool :=
  word.length = 2 && word.head? = some '-'

abbrev Step := Except TestError (Bool × List Text)

/-- The words of a test, of which the last one is named where more are needed. -/
structure Words where
  tree : FileTree
  last : Text

def Words.beyond {α : Type} (words : Words) : Except TestError α :=
  .error (.missingAfter words.last)

def unary (words : Words) (operator : Text) (rest : List Text) : Step :=
  match rest with
  | [] => words.beyond
  | operand :: rest =>
      if !isUnary operator then .error (.noUnary operator)
      else if operator = "-t" ∧ (Condition.integer? operand).isNone then .error (.noInteger operand)
      else .ok (Condition.unary words.tree operator operand, rest)

def integer (word : Text) : Except TestError Int :=
  match Condition.integer? word with
  | some value => .ok value
  | none => .error (.noInteger word)

def binary (words : Words) (left operator right : Text) : Except TestError Bool :=
  let isThere (path : Text) : Bool := (Condition.place? words.tree path).isSome
  let isNewer (first second : Text) : Bool :=
    if isThere first && !isThere second then true
    else Condition.isNewer words.tree first second
  if operator = "=" ∨ operator = "==" then .ok (left = right)
  else if operator = "!=" then .ok (left ≠ right)
  else if operator = "-ef" then .ok (Condition.isSameFile words.tree left right)
  else if operator = "-nt" then .ok (isNewer left right)
  else if operator = "-ot" then .ok (isNewer right left)
  else do .ok (Condition.compare operator (← integer left) (← integer right))

def twoWords (words : Words) (first second : Text) : Except TestError Bool :=
  if first = "!" then .ok second.isEmpty
  else if looksUnary first then
    if isUnary first then (unary words first [second]).map Prod.fst
    else .error (.noUnary first)
  else words.beyond

mutual

/-- A disjunction at the front of the words, and the words after it. As many steps are allowed. -/
def anyOf (words : Words) : Nat → List Text → Step
  | 0, rest => .ok (false, rest)
  | steps + 1, rest => do
      let (value, rest) ← allOf words steps rest
      moreOf words steps "-o" value rest

def allOf (words : Words) : Nat → List Text → Step
  | 0, rest => .ok (false, rest)
  | steps + 1, rest => do
      let (value, rest) ← term words steps false rest
      moreOf words steps "-a" value rest

/-- The operands behind one that has been read, as long as an operator joins them. -/
def moreOf (words : Words) : Nat → Text → Bool → List Text → Step
  | 0, _, value, rest => .ok (value, rest)
  | _, _, value, [] => .ok (value, [])
  | steps + 1, operator, value, word :: rest =>
      if word ≠ operator then .ok (value, word :: rest)
      else if rest.isEmpty then words.beyond
      else if operator = "-o" then do
        let (other, rest) ← allOf words steps rest
        moreOf words steps operator (value || other) rest
      else do
        let (other, rest) ← term words steps false rest
        moreOf words steps operator (value && other) rest

def term (words : Words) : Nat → Bool → List Text → Step
  | 0, _, rest => .ok (false, rest)
  | _, _, [] => words.beyond
  | steps + 1, isNegated, word :: rest =>
      let negate (step : Step) : Step := step.map fun (value, rest) => (value != isNegated, rest)
      if word = "!" then
        if rest.isEmpty then words.beyond else term words steps (!isNegated) rest
      else if word = "(" then
        if rest.isEmpty then words.beyond
        else do
          let inside := rest.tail.takeWhile (· ≠ ([')'] : Text))
          let count := if 3 < inside.length then rest.length else inside.length + 1
          let (value, rest) ← counted words steps (min count rest.length) rest
          match rest with
          | [] => .error (.noParenthesis none)
          | found :: rest =>
              if found = ")" then negate (.ok (value, rest))
              else .error (.noParenthesis (some found))
      else
        match rest with
        | operator :: right :: rest =>
            if binaryOperators.contains operator then do
              let value ← binary words word operator right
              negate (.ok (value, rest))
            else if looksUnary word then
              if isUnary word then negate (unary words word (operator :: right :: rest))
              else .error (.noUnary word)
            else negate (.ok (!word.isEmpty, operator :: right :: rest))
        | rest =>
            if looksUnary word then
              if isUnary word then negate (unary words word rest) else .error (.noUnary word)
            else negate (.ok (!word.isEmpty, rest))

/-- A condition of so many words; up to four are read by their number. -/
def counted (words : Words) : Nat → Nat → List Text → Step
  | 0, _, rest => .ok (false, rest)
  | steps + 1, count, rest =>
      match count, rest with
      | 1, word :: rest => .ok (!word.isEmpty, rest)
      | 2, first :: second :: rest => (twoWords words first second).map fun value => (value, rest)
      | 3, first :: second :: third :: after =>
          if binaryOperators.contains second then
            (binary words first second third).map fun value => (value, after)
          else if first = "!" then
            (twoWords words second third).map fun value => (!value, after)
          else if first = "(" ∧ third = ")" then .ok (!second.isEmpty, after)
          else if second = "-a" ∨ second = "-o" then anyOf words steps rest
          else .error (.noBinary second)
      | 4, first :: second :: third :: fourth :: after =>
          if first = "!" then
            (counted words steps 3 (second :: third :: fourth :: after)).map fun (value, rest) =>
              (!value, rest)
          else if first = "(" ∧ fourth = ")" then
            (twoWords words second third).map fun value => (value, after)
          else anyOf words steps rest
      | _, rest => anyOf words steps rest

end

/-- The condition that all words write. -/
def holds (tree : FileTree) (arguments : List Text) : Except TestError Bool :=
  match arguments with
  | [] => .ok false
  | arguments => do
      let words : Words := ⟨tree, arguments.getLastD []⟩
      match ← counted words (6 * arguments.length + 6) arguments.length arguments with
      | (value, []) => .ok value
      | (_, word :: _) => .error (.extra word)

end Test

def Invocation.test (invocation : Invocation) : Effect :=
  let arguments : Except TestError (List Text) :=
    if invocation.name.getLast? ≠ some '\x5b' then .ok invocation.arguments
    else if invocation.arguments.getLast? = some ['\x5d'] then .ok invocation.arguments.dropLast
    else .error .missingBracket
  match arguments >>= Test.holds invocation.tree with
  | .ok value => invocation.report (.ofStatus (if value then 0 else 1))
  | .error error => invocation.refuse error.message 2

end AsmLens.Shell
