import AsmLens.Shell.Regex.Reader
import AsmLens.Shell.RuleProgram.Token

namespace AsmLens.Shell

inductive RuleNameKind where
  | scalar
  | array
  | function
  deriving DecidableEq

/-- The part of a program that is being read. -/
inductive RuleScope where
  | edge
  | main
  | function
  deriving DecidableEq

inductive RuleFault where
  | misplaced
  | stop

/-- A program of rules that is being read. What has been found comes last one first. -/
structure RuleReader where
  scanner : RuleScanner
  names : List (Text × RuleNameKind)
  parameters : List (Text × Option RuleNameKind) := []
  /-- The functions that are called, with how many arguments and in which line. -/
  calls : List (Text × Nat × Nat) := []
  functions : List RuleFunction := []
  rules : List Rule := []
  ranges : Nat := 0
  loops : Nat := 0
  scope : RuleScope := .main

abbrev RuleReading := ExceptT RuleFault (StateM RuleReader)

namespace RuleReading

def token : RuleReading RuleToken :=
  return (← get).scanner.token

def misplaced {α : Type} : RuleReading α :=
  throw .misplaced

def stop {α : Type} : RuleReading α :=
  throw .stop

def changeScanner (change : RuleScanner → RuleScanner) : RuleReading Unit := do
  modify fun reader => { reader with scanner := change reader.scanner }
  if (← get).scanner.hasStopped then stop

def advance : RuleReading Unit :=
  changeScanner RuleScanner.advance

def complain (message : Text) : RuleReading Unit :=
  changeScanner fun scanner => scanner.complain message

def isAt (sign : String) : RuleReading Bool := do
  match ← token with
  | .sign found => return found = sign.toList
  | _ => return false

def accept (sign : String) : RuleReading Bool := do
  if ← isAt sign then
    advance
    return true
  else
    return false

def expect (sign : String) : RuleReading Unit := do
  if !(← accept sign) then misplaced

def isAtWord (word : String) : RuleReading Bool := do
  match ← token with
  | .keyword found => return found = word.toList
  | _ => return false

def acceptWord (word : String) : RuleReading Bool := do
  if ← isAtWord word then
    advance
    return true
  else
    return false

/-- Complains about the token at the front. Where a line or a statement ends, parentheses are missed
first. -/
def report : RuleReading Unit := do
  let scanner := (← get).scanner
  let isEnd : Bool :=
    match scanner.token with
    | .line | .semicolon _ => true
    | .sign sign => sign = "\x7d"
    | _ => false
  match scanner.token with
  | .unexpected c =>
      let text := scanner.label ++ Text.ofNat scanner.tokenLine ++ ": unexpected character '" ++ [c] ++
        "'\n"
      changeScanner fun scanner => { scanner with complaints := text :: scanner.complaints }
  | found =>
      if isEnd && scanner.parentheses ≠ 0 then
        changeScanner fun scanner => { scanner with parentheses := 0 }
        complain ("missing ) near " ++ found.shown)
      else complain ("syntax error at or near " ++ found.shown)

/-- Whether a name is that of a function. A new one that is called is. -/
def isFunction (name : Text) (isCalled : Bool) : RuleReading Bool := do
  let reader ← get
  if reader.parameters.any fun entry => entry.1 = name then return false
  else
    match reader.names.find? fun entry => entry.1 = name with
    | some (_, kind) => return kind = .function
    | none =>
        if isCalled then set { reader with names := (name, .function) :: reader.names }
        return isCalled

def variableOf (name : Text) : RuleReading RuleVariable := do
  match (← get).parameters.findIdx? fun entry => entry.1 = name with
  | some place => return .parameter place
  | none => return .shared name

/-- Notes that a name is used for a value or an array, and complains if it stands for the other. -/
def use (name : Text) (kind : RuleNameKind) : RuleReading RuleVariable := do
  let found ← variableOf name
  let reader ← get
  let wording : RuleNameKind → Text
    | .array => "array "
    | .scalar => "variable "
    | .function => "function "
  let (isLocal, known) : Bool × Option RuleNameKind :=
    match found with
    | .parameter place => (true, (reader.parameters[place]?).bind Prod.snd)
    | .shared _ => (false, (reader.names.find? fun entry => entry.1 = name).map Prod.snd)
  match known with
  | none =>
      if isLocal then
        set { reader with
          parameters := reader.parameters.map fun (entry : Text × Option RuleNameKind) =>
            if entry.1 = name then (name, some kind) else entry }
      else set { reader with names := (name, kind) :: reader.names }
  | some known =>
      if known ≠ kind then
        let kept : Text := if isLocal then "local " else ""
        complain ("illegal reference to " ++ kept ++ wording known ++ name)
  return found

/-- The name of an array. -/
def arrayName : RuleReading RuleVariable := do
  match ← token with
  | .name name isCalled =>
      if ← isFunction name isCalled then misplaced
      else
        advance
        use name .array
  | _ => misplaced

/-- A name that stands alone in front of a comma or a closing parenthesis. -/
def bareName? : RuleReading (Option RuleVariable) := do
  match ← token with
  | .name name isCalled =>
      if ← isFunction name isCalled then return none
      else
        let before ← get
        advance
        if (← isAt ",") || (← isAt ")") then
          return some (← variableOf name)
        else
          set before
          return none
  | _ => return none

def compile (content : Text) : RuleReading Regex := do
  let reason : RegexError → Text
    | .unmatchedGroup => "missing ')'"
    | .strayGroupEnd => "missing '('"
    | .unmatchedBracket | .badPattern | .badRange | .badClass | .badCollation =>
        "bad class -- \x5b\x5d, \x5b^\x5d or \x5b"
    | .badOperand => "missing operand"
    | _ => "syntax error"
  match Regex.read .escaped content with
  | .ok regex => return regex
  | .error error =>
      complain ("regular expression compile failed (" ++ reason error ++ ")\n" ++ content)
      return .empty

/-- Whether a value can be assigned to an expression. -/
def isPlace : RuleExpr → Bool
  | .variable _ | .field _ | .element _ _ => true
  | _ => false

/-- Whether an operand starts with a token. -/
def startsOperand : RuleToken → Bool
  | .number _ _ | .text _ | .regex _ | .name _ _ | .primitive _ => true
  | .keyword word => word = "getline"
  | .sign sign => ["!", "(", "$", "++", "--"].any fun (start : String) => start.toList = sign
  | _ => false

/-- How a token joins two operands at some level. -/
def joint? (level : Nat) (token : RuleToken) : Option (RuleExpr → RuleExpr → RuleExpr) :=
  if level = 5 then if startsOperand token then some .joined else none
  else
    match token with
    | .sign sign =>
        let entries : List (Nat × String × (RuleExpr → RuleExpr → RuleExpr)) := [
          (0, "||", .disjunction), (1, "&&", .conjunction), (3, "~", .search false),
          (3, "!~", .search true), (4, "==", .compare .equal), (4, "!=", .compare .notEqual),
          (4, "<", .compare .less), (4, "<=", .compare .atMost), (4, ">", .compare .greater),
          (4, ">=", .compare .atLeast), (6, "+", .binary .add), (6, "-", .binary .subtract),
          (7, "*", .binary .multiply), (7, "/", .binary .divide), (7, "%", .binary .remainder)]
        (entries.find? fun entry => entry.1 = level && entry.2.1.toList = sign).map fun entry =>
          entry.2.2
    | _ => none

/-- How a sign assigns a value to a place. -/
def assignment? (token : RuleToken) : Option (RuleExpr → RuleExpr → RuleExpr) :=
  match token with
  | .sign sign =>
      let entries : List (String × (RuleExpr → RuleExpr → RuleExpr)) := [("=", .assign),
        ("+=", fun place => .update place .add), ("-=", fun place => .update place .subtract),
        ("*=", fun place => .update place .multiply), ("/=", fun place => .update place .divide),
        ("%=", fun place => .update place .remainder), ("^=", fun place => .update place .power)]
      (entries.find? fun entry => entry.1.toList = sign).map Prod.snd
  | _ => none

/-- The functions with arguments in order, and how many of them they take. -/
def plainPrimitives : List (String × RulePrimitive × Nat × Nat) := [("substr", .substr, 2, 3),
  ("index", .index, 2, 2), ("sprintf", .sprintf, 1, 1000), ("sin", .sine, 1, 1),
  ("cos", .cosine, 1, 1), ("atan2", .arctangent, 2, 2), ("exp", .exponential, 1, 1),
  ("log", .logarithm, 1, 1), ("sqrt", .squareRoot, 1, 1), ("int", .integer, 1, 1),
  ("rand", .random, 0, 0), ("srand", .seed, 0, 1), ("tolower", .lower, 1, 1),
  ("toupper", .upper, 1, 1), ("system", .system, 1, 1), ("close", .close, 1, 1),
  ("fflush", .flush, 0, 1)]

/-- The variables whose names bind to a sign behind them before they tell a field. -/
def fieldLike : List Text := ["NF", "RS", "FS", "CONVFMT", "OFMT"]

mutual

def expression : Nat → RuleReading RuleExpr
  | 0 => stop
  | steps + 1 => do
      let condition ← operation steps 0 true
      if ← accept "?" then
        let first ← expression steps
        expect ":"
        let second ← expression steps
        return .choice condition first second
      else
        return condition

/-- Operands that are joined at some level. The first one can be assigned to or not. -/
def operation : Nat → Nat → Bool → RuleReading RuleExpr
  | 0, _, _ => stop
  | steps + 1, level, assigns => do
      if 8 ≤ level then unary steps assigns
      else
        let first ← operation steps (level + 1) assigns
        operations steps level first

def operations : Nat → Nat → RuleExpr → RuleReading RuleExpr
  | 0, _, _ => stop
  | steps + 1, level, first => do
      if level = 2 then
        if ← acceptWord "in" then
          let array ← arrayName
          operations steps level (.membership [first] array)
        else
          return first
      else
        match joint? level (← token) with
        | none => return first
        | some join =>
            if level ≠ 5 then advance
            let second ← operation steps (level + 1) (level < 5)
            operations steps level (join first second)

def unary : Nat → Bool → RuleReading RuleExpr
  | 0, _ => stop
  | steps + 1, assigns => do
      if ← accept "!" then return .negation (← unary steps false)
      else if ← accept "-" then return .sign true (← unary steps false)
      else if ← accept "+" then return .sign false (← unary steps false)
      else
        let first ← power steps assigns
        pipes steps first

/-- The lines that are read from an operand as a command. -/
def pipes : Nat → RuleExpr → RuleReading RuleExpr
  | 0, _ => stop
  | steps + 1, first => do
      if ← accept "|" then
        if !(← acceptWord "getline") then misplaced
        let target ← target? steps
        pipes steps (.readCommand target first)
      else
        return first

def power : Nat → Bool → RuleReading RuleExpr
  | 0, _ => stop
  | steps + 1, assigns => do
      let base ← stepped steps assigns
      if ← accept "^" then
        let isSigned := (← isAt "!") || (← isAt "-") || (← isAt "+")
        let exponent ← if isSigned then unary steps false else power steps false
        return .binary .power base exponent
      else
        return base

/-- An operand with the signs that change its value. -/
def stepped : Nat → Bool → RuleReading RuleExpr
  | 0, _ => stop
  | steps + 1, assigns => do
      if ← accept "++" then return .step (← place steps) true true
      else if ← accept "--" then return .step (← place steps) false true
      else
        let first ← operand steps
        if !isPlace first then return first
        else if ← accept "++" then return .step first true false
        else if ← accept "--" then return .step first false false
        else
          match assigns, assignment? (← token) with
          | true, some assign =>
              advance
              return assign first (← expression steps)
          | _, _ => return first

def place : Nat → RuleReading RuleExpr
  | 0 => stop
  | steps + 1 => do
      let found ← operand steps
      if isPlace found then return found else misplaced

/-- Where a line is put, if that is told. -/
def target? : Nat → RuleReading (Option RuleExpr)
  | 0 => stop
  | steps + 1 => do
      match ← token with
      | .name name isCalled =>
          if ← isFunction name isCalled then return none
          else return some (← place steps)
      | .sign sign => if sign = "$" then return some (← place steps) else return none
      | _ => return none

def operand : Nat → RuleReading RuleExpr
  | 0 => stop
  | steps + 1 => do
      match ← token with
      | .number value _ =>
          advance
          return .number value
      | .text content =>
          advance
          return .text content
      | .regex content =>
          let found ← compile content
          advance
          return .regex found
      | .name name isCalled =>
          if ← isFunction name isCalled then
            advance
            expect "("
            let arguments ← callArguments steps
            let line := (← get).scanner.tokenLine
            expect ")"
            modify fun reader =>
              { reader with calls := (name, arguments.length, line) :: reader.calls }
            return .call name arguments
          else
            advance
            if ← isAt "\x5b" then
              let array ← use name .array
              advance
              let subscripts ← listed steps
              expect "\x5d"
              return .element array subscripts
            else
              return .variable (← use name .scalar)
      | .primitive name =>
          advance
          primitive steps name
      | .keyword word =>
          if word ≠ "getline" then misplaced
          else
            advance
            let target ← target? steps
            if ← accept "<" then return .readFile target (← power steps false)
            else return .readRecord target
      | .sign sign =>
          if sign = "(" then
            advance
            let inside ← listed steps
            expect ")"
            match inside with
            | [] => misplaced
            | [.field index] => return .field index
            | [found] => return .group found
            | several =>
                if ← acceptWord "in" then return .membership several (← arrayName)
                else misplaced
          else if sign = "$" then
            advance
            match ← token with
            | .sign sign =>
                if sign = "-" ∨ sign = "+" ∨ sign = "!" then return .field (← unary steps false)
                else return .field (← stepped steps false)
            | .name name isCalled =>
                if fieldLike.contains name || (← isFunction name isCalled) then
                  return .field (← stepped steps false)
                else return .field (← operand steps)
            | _ => return .field (← stepped steps false)
          else misplaced
      | _ => misplaced

/-- Expressions with commas between them, at least one. -/
def listed : Nat → RuleReading (List RuleExpr)
  | 0 => stop
  | steps + 1 => do
      let first ← expression steps
      if ← accept "," then return first :: (← listed steps)
      else return [first]

/-- The arguments of a function of the program. -/
def callArguments : Nat → RuleReading (List RuleExpr)
  | 0 => stop
  | steps + 1 => do
      if ← isAt ")" then return []
      else
        let first ← match ← bareName? with
          | some name => pure (.variable name)
          | none => expression steps
        if ← accept "," then
          if ← isAt ")" then misplaced
          return first :: (← callArguments steps)
        else
          return [first]

/-- A call of a function that every program has. -/
def primitive : Nat → Text → RuleReading RuleExpr
  | 0, _ => stop
  | steps + 1, name => do
      if name = "length" then
        if !(← accept "(") then return .primitive .length []
        else if ← accept ")" then return .primitive .length []
        else
          let argument ← match ← bareName? with
            | some name => pure (.variable name)
            | none => expression steps
          expect ")"
          return .primitive .length [argument]
      else
        expect "("
        if name = "split" then
          let text ← expression steps
          expect ","
          let array ← arrayName
          let separator ← if ← accept "," then List.singleton <$> expression steps else pure []
          expect ")"
          return .primitive .split ([text, .variable array] ++ separator)
        else if name = "sub" ∨ name = "gsub" then
          let pattern ← expression steps
          expect ","
          let new ← expression steps
          let target ← if ← accept "," then place steps else pure (.field (.number 0.0))
          expect ")"
          return .primitive (.substitute (name = "gsub")) [pattern, new, target]
        else if name = "match" then
          let text ← expression steps
          expect ","
          let pattern ← expression steps
          expect ")"
          return .primitive .matchPlace [text, pattern]
        else
          let arguments ← if ← isAt ")" then pure [] else listed steps
          expect ")"
          match plainPrimitives.find? fun entry => entry.1.toList = name with
          | none => misplaced
          | some (_, found, least, most) =>
              if arguments.length < least ∨ most < arguments.length then
                complain ("wrong number of arguments in call to " ++ name)
              return .primitive found arguments

end

end RuleReading

end AsmLens.Shell
