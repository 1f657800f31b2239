import AsmLens.Shell.Token

namespace AsmLens.Shell

namespace Reader

/-- The words that have a meaning of their own where a command may start. -/
def reservedWords : List Text :=
  ["if", "then", "elif", "else", "fi", "while", "until", "do", "done", "for", "in", "case", "esac",
    "!", "\x7b", "\x7d"]

def reserved? (word : Word) : Option Text :=
  (Token.plainText? word).filter reservedWords.contains

def quotedName (name : Text) : Text :=
  "\"" ++ name ++ "\""

/-- A script that cannot be read on at its next token. A line break counts for the next line. -/
def refuse {α : Type} (tokens : List Token) (expected : Option Text) :
    Except (Nat × ScriptError) α :=
  match tokens with
  | .word line word :: _ =>
      let found : Text := ((reserved? word).map quotedName).getD "word"
      .error (line, .unexpected found expected)
  | .operator line symbol :: _ =>
      let found : Text :=
        if symbol.any fun c => c = '<' ∨ c = '>' then "redirection" else quotedName symbol
      .error (line, .unexpected found expected)
  | .newline line :: _ => .error (line + 1, .unexpected "newline" expected)
  | .finish line (some error) :: _ => .error (line, error)
  | .finish line none :: _ => .error (line, .unexpected "end of file" expected)
  | _ => .error (1, .unexpected "redirection" expected)

/-- The assignment that a word spells. -/
def assignment? (word : Word) : Option (Text × Word) :=
  let rec cut (name : Text) : Word → Option (Text × Word)
    | .text [c] false :: rest =>
        if c = '=' then
          if name.isEmpty then none else some (name, rest)
        else if Token.isNameChar c then
          cut (name ++ [c]) rest
        else
          none
    | _ => none
  match word with
  | .text [c] false :: _ => if c.isDigit then none else cut [] word
  | _ => none

def skipNewlines : List Token → List Token
  | .newline _ :: rest => skipNewlines rest
  | tokens => tokens

/-- One redirection at the front of the tokens, if one starts there. -/
def redirect? (tokens : List Token) :
    Except (Nat × ScriptError) (Option (Redirect × List Token)) :=
  match tokens with
  | .descriptor number :: .operator _ symbol :: rest => target (some number) symbol rest
  | .operator _ symbol :: rest => target none symbol rest
  | _ => .ok none
where
  target (number : Option Nat) (symbol : Text) (tokens : List Token) :
      Except (Nat × ScriptError) (Option (Redirect × List Token)) :=
    if !(symbol.any fun c => c = '<' ∨ c = '>') then
      .ok none
    else
      match tokens with
      | .document _ content :: rest => .ok (some (⟨number.getD 0, .document content⟩, rest))
      | .word _ word :: rest =>
          let given (standard : Nat) (target : RedirectTarget) :
              Except (Nat × ScriptError) (Option (Redirect × List Token)) :=
            .ok (some (⟨number.getD standard, target⟩, rest))
          if symbol = ">" then given 1 (.output word .empties)
          else if symbol = ">|" then given 1 (.output word .overrides)
          else if symbol = ">>" then given 1 (.output word .appends)
          else if symbol = "<>" then given 0 (.output word .keeps)
          else if symbol = "<" then given 0 (.input word)
          else given (if symbol = ">&" then 1 else 0) (.descriptor word)
      | rest => refuse rest none

abbrev Step := Except (Nat × ScriptError) (Command × List Token)

/-- The redirections at the front of the tokens, of which at most so many are read. -/
def redirects : Nat → List Redirect → List Token →
    Except (Nat × ScriptError) (List Redirect × List Token)
  | 0, found, tokens => .ok (found, tokens)
  | steps + 1, found, tokens => do
      match ← redirect? tokens with
      | some (redirect, rest) => redirects steps (found ++ [redirect]) rest
      | none => .ok (found, tokens)

/-- The words and redirections of a simple command, for which as many steps are allowed. -/
def simple : Nat → Nat → List (Text × Word) → List Word → List Redirect → List Token → Step
  | 0, _, _, _, _, tokens => refuse tokens none
  | steps + 1, line, assignments, words, redirects, tokens => do
      match ← redirect? tokens, tokens with
      | some (redirect, rest), _ =>
          simple steps line assignments words (redirects ++ [redirect]) rest
      | none, .word _ word :: rest =>
          match (if words.isEmpty then assignment? word else none) with
          | some assignment =>
              simple steps line (assignments ++ [assignment]) words redirects rest
          | none => simple steps line assignments (words ++ [word]) redirects rest
      | none, rest => .ok (.simple line assignments words redirects, rest)

/-- The words of a `for` up to the token that ends them. -/
def items : List Token → List Word × List Token
  | .word _ word :: rest =>
      let (words, rest) := items rest
      (word :: words, rest)
  | tokens => ([], tokens)

/-- A script that cannot be read on where no word has a meaning of its own. -/
def refusePlain {α : Type} (tokens : List Token) (expected : Option Text) :
    Except (Nat × ScriptError) α :=
  match tokens with
  | .word line _ :: _ => .error (line, .unexpected "word" expected)
  | tokens => refuse tokens expected

/-- The patterns of a branch, up to and with the parenthesis behind them. Another token in the place of a
pattern covers nothing. -/
def patterns : List Token → Except (Nat × ScriptError) (List Word × List Token)
  | [] => refuse [] none
  | .finish line error :: rest => refuse (.finish line error :: rest) (some "\")\"")
  | first :: rest => do
      let found : List Word :=
        match first with
        | .word _ word => [word]
        | _ => []
      match rest with
      | .operator _ ['|'] :: rest =>
          let (words, rest) ← patterns rest
          .ok (found ++ words, rest)
      | .operator _ [')'] :: rest => .ok (found, rest)
      | rest => refusePlain rest (some "\")\"")

/-- Takes a reserved word off the tokens. -/
def expect (wanted : Text) (tokens : List Token) : Except (Nat × ScriptError) (List Token) :=
  match tokens with
  | .word _ word :: rest =>
      if reserved? word = some wanted then .ok rest else refuse tokens (some (quotedName wanted))
  | _ => refuse tokens (some (quotedName wanted))

def startsWith (wanted : Text) (tokens : List Token) : Bool :=
  match tokens with
  | .word _ word :: _ => reserved? word = some wanted
  | _ => false

def isName (word : Text) : Bool :=
  match word with
  | [] => false
  | c :: rest => Token.isNameStart c && rest.all Token.isNameChar

/-- Whether commands end before the next token. -/
def endsList (tokens : List Token) : Bool :=
  match tokens with
  | .word _ word :: _ =>
      (reserved? word).any
        (["then", "elif", "else", "fi", "do", "done", "esac", "\x7d"] : List Text).contains
  | .operator _ symbol :: _ => symbol = ")" || symbol = ";;"
  | .finish _ _ :: _ => true
  | _ => false

mutual

/-- Commands up to a token that ends them. There is at least one, or the script ends. -/
def list : Nat → List Token → Step
  | 0, tokens => refuse tokens none
  | steps + 1, tokens =>
      match skipNewlines tokens with
      | .finish line none :: rest => .ok (.nothing, .finish line none :: rest)
      | tokens => do
          let (first, rest) ← andOr steps tokens
          listFrom steps first rest

def listFrom : Nat → Command → List Token → Step
  | 0, _, tokens => refuse tokens none
  | steps + 1, first, tokens =>
      match tokens with
      | .operator line ['&'] :: rest => listFrom steps (.background first) (.newline line :: rest)
      | .newline _ :: rest | .operator _ [';'] :: rest =>
          let rest := skipNewlines rest
          if endsList rest then .ok (first, rest)
          else do
            let (second, rest) ← andOr steps rest
            listFrom steps (.sequence first second) rest
      | rest => .ok (first, rest)

/-- Commands joined by `&&` and `||`, which bind to the left. -/
def andOr : Nat → List Token → Step
  | 0, tokens => refuse tokens none
  | steps + 1, tokens => do
      let (first, rest) ← pipeline steps tokens
      andOrFrom steps first rest

def andOrFrom : Nat → Command → List Token → Step
  | 0, _, tokens => refuse tokens none
  | steps + 1, first, tokens =>
      match tokens with
      | .operator _ ['&', '&'] :: rest => do
          let (second, rest) ← pipeline steps (skipNewlines rest)
          andOrFrom steps (.both first second) rest
      | .operator _ ['|', '|'] :: rest => do
          let (second, rest) ← pipeline steps (skipNewlines rest)
          andOrFrom steps (.either first second) rest
      | rest => .ok (first, rest)

def pipeline : Nat → List Token → Step
  | 0, tokens => refuse tokens none
  | steps + 1, tokens =>
      if startsWith "!" tokens then
        if startsWith "!" tokens.tail then refuse tokens.tail none
        else do
          let (body, rest) ← pipeline steps tokens.tail
          .ok (.negation body, rest)
      else do
        let (first, rest) ← command steps tokens
        match rest with
        | .operator _ ['|'] :: rest => do
            let (second, rest) ← pipeline steps (skipNewlines rest)
            .ok (.pipeline first second, rest)
        | rest => .ok (first, rest)

def command : Nat → List Token → Step
  | 0, tokens => refuse tokens none
  | steps + 1, tokens =>
      match tokens with
      | .operator line ['('] :: rest => do
          let (body, rest) ← list steps rest
          match rest with
          | .operator _ [')'] :: rest => redirected steps line (.subshell body) rest
          | rest => refuse rest (some "\")\"")
      | .word line word :: rest =>
          match reserved? word with
          | none => named steps line word rest
          | some name =>
              if name = "\x7b" then do
                let (body, rest) ← list steps rest
                redirected steps line body (← expect "\x7d" rest)
              else if name = "if" then do
                let (body, rest) ← choice steps rest
                redirected steps line body rest
              else if name = "while" ∨ name = "until" then do
                let (condition, rest) ← list steps rest
                let (body, rest) ← list steps (← expect "do" rest)
                redirected steps line (.loop condition (name = "while") body) (← expect "done" rest)
              else if name = "for" then forEach steps line rest
              else if name = "case" then selection steps line rest
              else refuse tokens none
      | .descriptor _ :: .operator line _ :: _ =>
          simple (tokens.length + 1) line [] [] [] tokens
      | .operator line symbol :: _ =>
          if symbol.any fun c => c = '<' ∨ c = '>' then
            simple (tokens.length + 1) line [] [] [] tokens
          else
            refuse tokens none
      | rest => refuse rest none

/-- A command that starts with a word: the definition of a function, or a simple one. -/
def named : Nat → Nat → Word → List Token → Step
  | 0, _, _, tokens => refuse tokens none
  | steps + 1, line, word, tokens =>
      match tokens with
      | .operator _ ['('] :: .operator _ [')'] :: rest =>
          match (Token.plainText? word).filter isName with
          | none => .error (line, .badFunctionName)
          | some name => do
              let (body, rest) ← command steps (skipNewlines rest)
              .ok (.definition name body, rest)
      | .operator _ ['('] :: rest =>
          if (assignment? word).isSome then refuse tokens none
          else refusePlain rest (some "\")\"")
      | rest => simple (rest.length + 2) line [] [] [] (.word line word :: rest)

/-- A compound command with the redirections after it. -/
def redirected (steps line : Nat) (body : Command) (tokens : List Token) : Step := do
  let (found, rest) ← redirects steps [] tokens
  .ok (if found.isEmpty then body else .group line body found, rest)

def choice : Nat → List Token → Step
  | 0, tokens => refuse tokens none
  | steps + 1, tokens => do
      let (condition, rest) ← list steps tokens
      let (whenTrue, rest) ← list steps (← expect "then" rest)
      if startsWith "elif" rest then do
        let (whenFalse, rest) ← choice steps rest.tail
        .ok (.choice condition whenTrue whenFalse, rest)
      else if startsWith "else" rest then do
        let (whenFalse, rest) ← list steps rest.tail
        .ok (.choice condition whenTrue whenFalse, ← expect "fi" rest)
      else
        .ok (.choice condition whenTrue .nothing, ← expect "fi" rest)

def forEach : Nat → Nat → List Token → Step
  | 0, _, tokens => refuse tokens none
  | steps + 1, line, tokens =>
      match tokens with
      | .word _ word :: rest =>
          match (Token.plainText? word).filter isName with
          | none => .error (line, .badLoopVariable)
          | some name => do
              let (words, rest) ←
                if startsWith "in" (skipNewlines rest) then
                  match items (skipNewlines rest).tail with
                  | (words, .newline _ :: rest) | (words, .operator _ [';'] :: rest) =>
                      pure (words, rest)
                  | (_, rest) => refuse rest none
                else
                  match rest with
                  | .operator _ [';'] :: rest => pure ([allParameters], rest)
                  | rest => pure ([allParameters], rest)
              let (body, rest) ← list steps (← expect "do" (skipNewlines rest))
              redirected steps line (.forEach line name words body) (← expect "done" rest)
      | .newline line :: _ => .error (line + 1, .badLoopVariable)
      | _ => .error (line, .badLoopVariable)

def selection : Nat → Nat → List Token → Step
  | 0, _, tokens => refuse tokens none
  | steps + 1, line, tokens =>
      match tokens with
      | .word _ subject :: rest => do
          let rest ← expect "in" (skipNewlines rest)
          let (found, rest) ← branches steps rest
          redirected steps line (.selection line subject found) rest
      | rest => refuse rest (some "word")

/-- The branches of a selection, up to and with the word that ends it. -/
def branches : Nat → List Token → Step
  | 0, tokens => refuse tokens none
  | steps + 1, tokens => do
      let tokens := skipNewlines tokens
      if startsWith "esac" tokens then
        .ok (.nothing, tokens.tail)
      else
        let opened :=
          match tokens with
          | .operator _ ['('] :: rest => rest
          | rest => rest
        let (found, rest) ← patterns opened
        let rest := skipNewlines rest
        let (body, rest) ← if endsList rest then pure (.nothing, rest) else list steps rest
        match rest with
        | .operator _ [';', ';'] :: rest => do
            let (others, rest) ← branches steps rest
            .ok (.branch found body others, rest)
        | rest =>
            if startsWith "esac" rest then .ok (.branch found body .nothing, rest.tail)
            else refuse rest (some "\";;\"")

end

/-- The commands of a line, up to a line break or the end. -/
def line : Nat → List Token → Step
  | 0, tokens => refuse tokens none
  | steps + 1, tokens =>
      match tokens with
      | .newline _ :: rest => .ok (.nothing, rest)
      | .finish line none :: rest => .ok (.nothing, .finish line none :: rest)
      | tokens => do
          let (first, rest) ← andOr steps tokens
          match rest with
          | .operator _ [';'] :: rest => do
              let (second, rest) ← line steps rest
              .ok (.sequence first second, rest)
          | .operator _ ['&'] :: rest => do
              let (second, rest) ← line steps rest
              .ok (.sequence (.background first) second, rest)
          | .newline _ :: rest => .ok (first, rest)
          | .finish line none :: rest => .ok (first, .finish line none :: rest)
          | rest => refuse rest none

/-- Commands between parentheses, up to a token that ends them. There may be none. -/
def enclosed (tokens : List Token) : Step :=
  let tokens := skipNewlines tokens
  if endsList tokens then .ok (.nothing, tokens) else list (12 * tokens.length + 12) tokens

/-- How far the commands behind an opening parenthesis go. -/
inductive Enclosure where
  | unfinished
  | closed
  | wrong (line : Nat) (error : ScriptError)

/-- Takes commands and a closing parenthesis off the tokens. -/
def enclosureEnd (tokens : List Token) : Except (Nat × ScriptError) (List Token) := do
  match ← enclosed tokens with
  | (_, .operator _ [')'] :: rest) => .ok rest
  | (_, rest) => refuse rest (some "\")\"")

/-- How far some tokens go behind an opening parenthesis, the last of which is a closing one. An end in
line zero, where no token is, tells that commands go on behind them. -/
def enclosure (tokens : List Token) : Enclosure :=
  match enclosureEnd (tokens ++ [.finish 0 none]) with
  | .ok _ => .closed
  | .error (0, _) => .unfinished
  | .error (line, error) => .wrong line error

end Reader

/-- The commands of the first line of a script, and the tokens after it. -/
def Command.ofTokens (tokens : List Token) : Reader.Step :=
  Reader.line (12 * tokens.length + 12) tokens

end AsmLens.Shell
