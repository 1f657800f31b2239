import AsmLens.Shell.RuleProgram.Reader

namespace AsmLens.Shell

namespace RuleReading

/-- Skips line ends, where a statement has to follow. -/
def skipLines : RuleReading Unit := do
  match ← token with
  | .line => advance
  | _ => pure ()

def isAtEnd : RuleReading Bool := do
  match ← token with
  | .line | .semicolon _ => return true
  | _ => return false

/-- The end of a statement. -/
def separator : RuleReading Unit := do
  if ← isAtEnd then advance else misplaced

/-- Goes on behind the next end of a statement. As many steps are allowed. -/
def recover : Nat → RuleReading Unit
  | 0 => stop
  | steps + 1 => do
      match ← token with
      | .line | .semicolon _ => advance
      | .ending => stop
      | _ =>
          advance
          recover steps

def semicolon : RuleReading Unit := do
  match ← token with
  | .semicolon _ => advance
  | _ => misplaced

/-- An expression, unless a sign or the end of a statement comes first. -/
def optional (steps : Nat) (sign : String) : RuleReading (Option RuleExpr) := do
  if (← isAtEnd) || (← isAt sign) then return none
  else return some (← expression steps)

/-- The key and the array in the head of a loop through an array. -/
def keys? : RuleReading (Option (RuleVariable × RuleVariable)) := do
  let before ← get
  match before.scanner.token with
  | .name key isCalled =>
      if ← isFunction key isCalled then return none
      else
        advance
        if ← acceptWord "in" then
          match ← token with
          | .name array _ =>
              advance
              if ← accept ")" then
                skipLines
                return some (← use key .scalar, ← use array .array)
              else
                set before
                return none
          | _ =>
              set before
              return none
        else
          set before
          return none
  | _ => return none

/-- What is printed: expressions, which can have parentheses around them all. -/
def printed (steps : Nat) : RuleReading (List RuleExpr) := do
  let before ← get
  let list : RuleReading (List RuleExpr) := do
    if ← isAtEnd then return []
    match ← token with
    | .output _ => return []
    | _ => listed steps
  if ← accept "(" then
    if ← accept ")" then return []
    else
      let inside ← listed steps
      let isWhole := 1 < inside.length && (← isAt ")")
      if isWhole then
        advance
        if !(← isAtWord "in") then return inside
      set before
      list
  else
    list

def output (steps : Nat) : RuleReading (Option (RuleOutput × RuleExpr)) := do
  match ← token with
  | .output sign =>
      advance
      let name ← expression steps
      let kind : RuleOutput := if sign = ">" then .file else if sign = ">>" then .appended else .pipe
      return some (kind, name)
  | _ => return none

/-- Reads the body of a loop. -/
def inLoop {α : Type} (body : RuleReading α) : RuleReading α := do
  modify fun reader => { reader with loops := reader.loops + 1 }
  let found ← body
  modify fun reader => { reader with loops := reader.loops - 1 }
  return found

/-- A statement of one word, which is complained about where it has no meaning. -/
def lone (statement : RuleStatement) (isMeant : Bool) (complaint : Text) :
    RuleReading RuleStatement := do
  if !isMeant then complain complaint
  advance
  separator
  return statement

mutual

/-- A statement. One that cannot be read is skipped. -/
def statement : Nat → RuleReading RuleStatement
  | 0 => stop
  | steps + 1 =>
      tryCatch (plainStatement steps) fun
        | .stop => stop
        | .misplaced => do
            report
            recover ((← get).scanner.rest.length + 4)
            return .block []

def plainStatement : Nat → RuleReading RuleStatement
  | 0 => stop
  | steps + 1 => do
      match ← token with
      | .line | .semicolon _ =>
          advance
          return .block []
      | .sign sign =>
          if sign = "\x7b" then
            advance
            return .block (← statements steps)
          else simple steps
      | .keyword word => worded steps word
      | _ => simple steps

/-- The statements up to a closing brace. -/
def statements : Nat → RuleReading (List RuleStatement)
  | 0 => stop
  | steps + 1 => do
      if ← accept "\x7d" then return []
      else
        let first ← statement steps
        return first :: (← statements steps)

def simple : Nat → RuleReading RuleStatement
  | 0 => stop
  | steps + 1 => do
      let found ← expression steps
      separator
      return .expression found

/-- A statement that starts with a word. -/
def worded : Nat → Text → RuleReading RuleStatement
  | 0, _ => stop
  | steps + 1, word => do
      let reader ← get
      if word = "if" then
        advance
        expect "("
        let condition ← expression steps
        expect ")"
        skipLines
        let yes ← statement steps
        if ← acceptWord "else" then
          skipLines
          return .branch condition yes (← statement steps)
        else
          return .branch condition yes (.block [])
      else if word = "while" then
        advance
        expect "("
        let condition ← expression steps
        expect ")"
        skipLines
        return .loop condition (← inLoop (statement steps))
      else if word = "do" then
        advance
        skipLines
        let body ← inLoop (statement steps)
        if !(← acceptWord "while") then misplaced
        expect "("
        let condition ← expression steps
        expect ")"
        separator
        return .repeated body condition
      else if word = "for" then
        advance
        expect "("
        match ← keys? with
        | some (key, array) => return .each key array (← inLoop (statement steps))
        | none =>
            let start ← optional steps ";"
            semicolon
            let condition ← optional steps ";"
            semicolon
            let step ← optional steps ")"
            expect ")"
            skipLines
            return .counted start condition step (← inLoop (statement steps))
      else if word = "print" ∨ word = "printf" then
        advance
        let arguments ← printed steps
        if word = "printf" ∧ arguments.isEmpty then complain "no arguments in call to printf"
        let output ← output steps
        separator
        return if word = "print" then .print arguments output else .printf arguments output
      else if word = "break" then
        lone .breaking (reader.loops ≠ 0) "break statement outside of loop"
      else if word = "continue" then
        lone .continuing (reader.loops ≠ 0) "continue statement outside of loop"
      else if word = "next" then lone .next (reader.scope = .main) "improper use of next"
      else if word = "nextfile" then
        lone .nextFile (reader.scope = .main) "improper use of nextfile"
      else if word = "exit" then
        advance
        let status ← optional steps ";"
        separator
        return .exit status
      else if word = "return" then
        if reader.scope ≠ .function then complain "return outside function body"
        advance
        let value ← optional steps ";"
        separator
        return .return value
      else if word = "delete" then
        advance
        let array ← arrayName
        let subscripts ← if ← accept "\x5b" then
            let found ← listed steps
            expect "\x5d"
            pure found
          else pure []
        separator
        return .delete array subscripts
      else simple steps

end

/-- Statements between braces. -/
def block (steps : Nat) (scope : RuleScope) : RuleReading RuleStatement := do
  modify fun reader => { reader with scope }
  expect "\x7b"
  let found ← statements steps
  modify fun reader => { reader with scope := .main }
  return .block found

def addRule (rule : Rule) : RuleReading Unit :=
  modify fun reader => { reader with rules := rule :: reader.rules }

/-- The parameters of a function. As many steps are allowed. -/
def parameters : Nat → List Text → RuleReading (List Text)
  | 0, _ => stop
  | steps + 1, found => do
      match ← token with
      | .name name _ =>
          if found.contains name then complain (name ++ " is duplicated in argument list")
          advance
          if ← accept "," then parameters steps (found ++ [name])
          else
            expect ")"
            return found ++ [name]
      | _ => misplaced

/-- The definition of a function behind its first word. -/
def definition (steps : Nat) : RuleReading Unit := do
  match ← token with
  | .name name _ =>
      let reader ← get
      match reader.names.find? fun entry => entry.1 = name with
      | none => set { reader with names := (name, .function) :: reader.names }
      | some (_, .function) =>
          if reader.functions.any fun function => function.name = name then
            complain ("redefinition of " ++ name)
      | some (_, .array) => complain ("illegal reference to array " ++ name)
      | some (_, .scalar) => complain ("illegal reference to variable " ++ name)
      advance
      expect "("
      let names ← if ← accept ")" then pure [] else parameters steps []
      skipLines
      modify fun reader => { reader with parameters := names.map fun name => (name, none) }
      let body ← block steps .function
      modify fun reader => { reader with
        parameters := []
        functions := ⟨name, names.length, body⟩ :: reader.functions }
  | _ => misplaced

/-- A rule or a function. -/
def item (steps : Nat) : RuleReading Unit := do
  if ← acceptWord "BEGIN" then addRule ⟨.first, some (← block steps .edge)⟩
  else if ← acceptWord "END" then addRule ⟨.last, some (← block steps .edge)⟩
  else if ← acceptWord "function" then definition steps
  else if ← isAt "\x7b" then addRule ⟨.always, some (← block steps .main)⟩
  else
    let start ← expression steps
    let pattern ← if ← accept "," then
        let finish ← expression steps
        let number := (← get).ranges
        modify fun reader => { reader with ranges := number + 1 }
        pure (RulePattern.range number start finish)
      else pure (.condition start)
    if ← isAt "\x7b" then addRule ⟨pattern, some (← block steps .main)⟩
    else
      separator
      addRule ⟨pattern, none⟩

/-- Goes on with the next statements between braces. As many steps are allowed. -/
def skipToBlock : Nat → RuleReading Unit
  | 0 => stop
  | steps + 1 => do
      if ← isAt "\x7b" then
        let _ ← block (steps + 100) .main
      else
        match ← token with
        | .ending => stop
        | _ =>
            advance
            skipToBlock steps

/-- All rules and functions. As many steps are allowed. -/
def items : Nat → RuleReading Unit
  | 0 => stop
  | steps + 1 => do
      match ← token with
      | .ending => pure ()
      | _ =>
          tryCatch (item steps) fun
            | .stop => stop
            | .misplaced => do
                report
                modify fun reader => { reader with parameters := [], loops := 0 }
                tryCatch (skipToBlock steps) fun
                  | .stop => stop
                  | .misplaced => report
          items steps

/-- Complains about calls that fit no function, where nothing else is wrong. -/
def checkCalls : RuleReading Unit := do
  let reader ← get
  let calls := if reader.scanner.complaints.isEmpty then reader.calls.reverse else []
  calls.forM fun (name, count, line) => do
    match reader.functions.find? fun function => function.name = name with
    | none => complain ("function " ++ name ++ " never defined")
    | some function =>
        if function.parameters < count then
          let last := (← get).scanner.tokenLine
          changeScanner fun scanner => { scanner with tokenLine := line }
          complain ("too many arguments in call to " ++ name)
          changeScanner fun scanner => { scanner with tokenLine := last }

end RuleReading

namespace RuleProgram

def scalarNames : List Text := ["NR", "FNR", "NF", "FS", "OFS", "ORS", "RS", "SUBSEP", "RSTART",
  "RLENGTH", "FILENAME", "ARGC", "CONVFMT", "OFMT"]

/-- Reads a program of rules. Gives all complaints if there are any. -/
def read (label text : Text) : Except (List Text) RuleProgram :=
  let names : List (Text × RuleNameKind) :=
    ("ENVIRON", .array) :: ("ARGV", .array) :: scalarNames.map fun name => (name, .scalar)
  let (line, rest) := RuleScanner.skipLines (text.length + 2) 1 (text ++ ['\n'])
  let scanner := RuleScanner.advance { rest, line, label }
  let steps := 20 * text.length + 1000
  let ((result, reader) : Except RuleFault Unit × RuleReader) :=
    (do RuleReading.items steps; RuleReading.checkCalls : RuleReading Unit).run.run
      { scanner, names }
  match result with
  | .ok () =>
      if reader.scanner.complaints.isEmpty then
        .ok ⟨reader.rules.reverse, reader.functions.reverse⟩
      else .error reader.scanner.complaints.reverse
  | .error _ => .error reader.scanner.complaints.reverse

end RuleProgram

end AsmLens.Shell
