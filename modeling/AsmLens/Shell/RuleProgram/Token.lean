import AsmLens.Shell.RuleProgram.Value

namespace AsmLens.Shell

/-- A part of the text of a program of rules. -/
inductive RuleToken where
  | ending
  | line
  /-- A semicolon, or the one that is understood before a brace. -/
  | semicolon (isWritten : Bool)
  | number (value : Float) (written : Text)
  | text (content : Text)
  | regex (content : Text)
  /-- A name, and whether a parenthesis follows directly. -/
  | name (name : Text) (isCalled : Bool)
  | keyword (word : Text)
  | primitive (name : Text)
  | sign (sign : Text)
  | output (sign : Text)
  | unexpected (c : Char)

/-- The text of a program on its way, and what has been found wrong with it. -/
structure RuleScanner where
  rest : Text
  line : Nat := 1
  token : RuleToken := .line
  /-- The line in which the token begins. -/
  tokenLine : Nat := 1
  parentheses : Nat := 0
  braces : Nat := 0
  /-- Whether a sign for output would be one. -/
  isPrinting : Bool := false
  /-- What every complaint begins with. -/
  label : Text := []
  /-- The complaints, the last one first. -/
  complaints : List Text := []
  hasStopped : Bool := false

namespace RuleToken

def keywords : List Text := ["BEGIN", "END", "function", "if", "else", "while", "for", "do", "break",
  "continue", "next", "nextfile", "exit", "return", "delete", "print", "printf", "getline", "in"]

def primitives : List Text := ["length", "substr", "index", "match", "split", "sub", "gsub",
  "sprintf", "sin", "cos", "atan2", "exp", "log", "sqrt", "int", "rand", "srand", "tolower",
  "toupper", "system", "close", "fflush"]

/-- How a token is named in a complaint. -/
def shown : RuleToken → Text
  | .ending => "end of file"
  | .line => "end of line"
  | .semicolon true => ";"
  | .semicolon false => "\x7d"
  | .number _ written => written
  | .text content => content
  | .regex content => '/' :: content ++ "/"
  | .name word _ => word
  | .keyword word => word
  | .primitive word => word
  | .sign written | .output written => written
  | .unexpected c => [c]

/-- Whether an opening slash after this token divides. -/
def isOperand : RuleToken → Bool
  | .number _ _ | .text _ | .regex _ | .name _ _ => true
  | .keyword word => word = "getline"
  | .sign written => written = ")" || written = "\x5d"
  | _ => false

end RuleToken

namespace RuleScanner

def complain (scanner : RuleScanner) (message : Text) : RuleScanner :=
  let text := scanner.label ++ "line " ++ Text.ofNat scanner.tokenLine ++ ": " ++ message ++ "\n"
  { scanner with
    complaints := text :: scanner.complaints
    hasStopped := scanner.hasStopped || 4 ≤ scanner.complaints.length }

def isBlank (c : Char) : Bool :=
  " \t\r\x0b\x0c".toList.contains c

/-- Skips blanks, comments and the ends of lines. As many steps are allowed. -/
def skipLines : Nat → Nat → Text → Nat × Text
  | 0, line, text => (line, text)
  | steps + 1, line, text =>
      match text.dropWhile isBlank with
      | '\n' :: rest => skipLines steps (line + 1) rest
      | '\\' :: '\n' :: rest => skipLines steps (line + 1) rest
      | '#' :: rest => skipLines steps line (rest.dropWhile (· ≠ '\n'))
      | rest => (line, rest)

/-- Takes a token with the text after it. -/
def take (scanner : RuleScanner) (token : RuleToken) (rest : Text) : RuleScanner :=
  { scanner with token, rest }

/-- Takes a token after which lines may end. -/
def takeLong (scanner : RuleScanner) (token : RuleToken) (rest : Text) : RuleScanner :=
  let (line, rest) := skipLines (rest.length + 1) scanner.line rest
  { scanner with token, rest, line }

/-- Stops at a constant that does not end. -/
def runaway (scanner : RuleScanner) (kind : Text) (start : Text) : RuleScanner :=
  let shown := (start.takeWhile (· ≠ '\n')).take 10
  { scanner.complain ("runaway " ++ kind ++ shown ++ " ...") with
    token := .ending
    hasStopped := true }

/-- A constant up to its closing quote, how many line ends it holds, and the text after it. -/
def quoted? : Text → Option (Text × Nat × Text)
  | [] | '\n' :: _ => none
  | '"' :: rest => some ([], 0, rest)
  | '\\' :: '\n' :: rest =>
      (quoted? rest).map fun (content, lines, rest) => (content, lines + 1, rest)
  | '\\' :: c :: rest =>
      (quoted? rest).map fun (content, lines, rest) => ('\\' :: c :: content, lines, rest)
  | c :: rest => (quoted? rest).map fun (content, lines, rest) => (c :: content, lines, rest)

/-- What a constant with escapes stands for. Those that mean nothing stay. As many steps are allowed. -/
def unescaped : Nat → Text → Text
  | 0, text => text
  | _, [] => []
  | steps + 1, '\\' :: c :: rest =>
      let letters : List (Char × Char) := [('"', '"'), ('\\', '\\'), ('n', '\n'), ('t', '\t'),
        ('f', '\x0c'), ('b', '\x08'), ('r', '\r'), ('a', '\x07'), ('v', '\x0b')]
      let isOctal (c : Char) : Bool := '0' ≤ c && c ≤ '7'
      let code (base : Nat) (digits : Text) : Char :=
        Char.ofNat
          (digits.foldl (fun value c => base * value + (Real.digitValue? base c).getD 0) 0 % 256)
      match letters.find? fun entry => entry.1 = c with
      | some (_, found) => found :: unescaped steps rest
      | none =>
          if isOctal c then
            let digits := ((c :: rest).take 3).takeWhile isOctal
            code 8 digits :: unescaped steps ((c :: rest).drop digits.length)
          else
            let digits := (rest.take 2).takeWhile fun c => (Real.digitValue? 16 c).isSome
            if c = 'x' ∧ !digits.isEmpty then
              code 16 digits :: unescaped steps (rest.drop digits.length)
            else '\\' :: c :: unescaped steps rest
  | steps + 1, c :: rest => c :: unescaped steps rest

/-- A regular expression up to its closing slash, and the text after it. A slash between brackets does
not close it. -/
def slashed? : Bool → Text → Option (Text × Text)
  | _, [] | _, '\n' :: _ => none
  | isInside, '\\' :: '/' :: rest =>
      (slashed? isInside rest).map fun (content, rest) => ('/' :: content, rest)
  | isInside, '\\' :: c :: rest =>
      (slashed? isInside rest).map fun (content, rest) => ('\\' :: c :: content, rest)
  | false, '/' :: rest => some ([], rest)
  | false, '\x5b' :: '^' :: '\x5d' :: rest =>
      (slashed? true rest).map fun (content, rest) => ('\x5b' :: '^' :: '\x5d' :: content, rest)
  | false, '\x5b' :: '\x5d' :: rest =>
      (slashed? true rest).map fun (content, rest) => ('\x5b' :: '\x5d' :: content, rest)
  | isInside, c :: rest =>
      (slashed? (if c = '\x5b' then true else isInside && c ≠ '\x5d') rest).map
        fun (content, rest) => (c :: content, rest)

/-- A number at the front of a text, and the text after it. -/
def decimal (text : Text) : Text × Text :=
  let whole := text.takeWhile Char.isDigit
  let afterWhole := text.drop whole.length
  let fraction : Text :=
    match afterWhole with
    | '.' :: rest => '.' :: rest.takeWhile Char.isDigit
    | _ => []
  let mantissa := whole ++ fraction
  let after := text.drop mantissa.length
  let exponent : Text :=
    match after with
    | letter :: rest =>
        let sign : Text := (rest.take 1).takeWhile fun c => c = '-' || c = '+'
        let digits := (rest.drop sign.length).takeWhile Char.isDigit
        if letter.toLower = 'e' ∧ !digits.isEmpty then letter :: sign ++ digits else []
    | [] => []
  (mantissa ++ exponent, after.drop exponent.length)

/-- A word at the front of a text. -/
def takeWord (scanner : RuleScanner) (text : Text) : RuleScanner :=
  let word := text.takeWhile isWordChar
  let rest := text.drop word.length
  if RuleToken.keywords.contains word then
    { scanner.take (.keyword word) rest with
      isPrinting := scanner.isPrinting || word = "print" || word = "printf" }
  else if RuleToken.primitives.contains word then scanner.take (.primitive word) rest
  else scanner.take (.name word (rest.head? = some '(')) rest

/-- The longest of some signs that a text starts with. -/
def signs : List Text :=
  Text.cut ' ' ("++ -- += -= *= /= %= ^= == != <= >= !~ && || + - * / % ^ = ! < > ~ ? : $ , ( ) " ++
    "\x5b \x5d |")

def takeSign (scanner : RuleScanner) (text : Text) : RuleScanner :=
  match signs.find? fun sign => sign.isPrefixOf text with
  | none => scanner.take (.unexpected (text.headD ' ')) (text.drop 1)
  | some sign =>
      let rest := text.drop sign.length
      if sign = "," ∨ sign = "&&" ∨ sign = "||" then scanner.takeLong (.sign sign) rest
      else if sign = "(" then
        { scanner.take (.sign sign) rest with parentheses := scanner.parentheses + 1 }
      else if sign = ")" then
        { scanner.take (.sign sign) rest with parentheses := scanner.parentheses - 1 }
      else scanner.take (.sign sign) rest

/-- Goes on to the next token. As many steps are allowed. -/
def scan : Nat → RuleScanner → RuleScanner
  | 0, scanner => { scanner with token := .ending, hasStopped := true }
  | steps + 1, before =>
      let text := before.rest.dropWhile isBlank
      let scanner := { before with tokenLine := before.line }
      let directsOutput : Bool := scanner.isPrinting && scanner.parentheses = 0
      match text with
      | [] =>
          if scanner.braces = 0 then scanner.take .ending []
          else
            { scanner.complain "missing \x7d near end of file" with
              token := .ending
              hasStopped := true }
      | '#' :: rest => scan steps { scanner with rest := rest.dropWhile (· ≠ '\n') }
      | '\\' :: '\n' :: rest => scan steps { scanner with rest, line := scanner.line + 1 }
      | '\n' :: rest =>
          { scanner with line := scanner.line + 1, isPrinting := false }.takeLong .line rest
      | ';' :: rest => { scanner with isPrinting := false }.takeLong (.semicolon true) rest
      | '\x7b' :: rest =>
          { scanner with braces := scanner.braces + 1 }.takeLong (.sign "\x7b") rest
      | '\x7d' :: rest =>
          let bare := rest.dropWhile isBlank
          let afterSemicolon : Text := if bare.head? = some ';' then bare.tail else bare
          let isEnded : Bool :=
            match scanner.token with
            | .line | .semicolon _ => true
            | .sign sign => sign = "\x7d"
            | _ => false
          if scanner.braces = 0 then
            scan steps { scanner.complain "extra '\x7d'" with rest := afterSemicolon }
          else if isEnded then
            let rest : Text := if scanner.braces = 1 then afterSemicolon else rest
            { scanner with braces := scanner.braces - 1 }.takeLong (.sign "\x7d") rest
          else { scanner with isPrinting := false }.take (.semicolon false) text
      | '"' :: rest =>
          match quoted? rest with
          | none => scanner.runaway "string constant \"" rest
          | some (content, lines, rest) =>
              { scanner with line := scanner.line + lines }.take
                (.text (unescaped (content.length + 1) content)) rest
      | '/' :: rest =>
          let isStep : Bool :=
            match scanner.token with
            | .sign sign => (sign = "++" || sign = "--") && rest.head? = some '='
            | _ => false
          if scanner.token.isOperand || isStep then scanner.takeSign text
          else
            match slashed? false rest with
            | none => scanner.runaway "regular expression /" rest
            | some (content, rest) => scanner.take (.regex content) rest
      | '>' :: '>' :: rest =>
          if directsOutput then { scanner with isPrinting := false }.take (.output ">>") rest
          else scanner.takeSign text
      | ')' :: rest =>
          if scanner.parentheses = 0 then scan steps { scanner.complain "extra ')'" with rest }
          else scanner.takeSign text
      | c :: rest =>
          if c = '>' ∧ directsOutput then
            { scanner with isPrinting := false }.take (.output ">") rest
          else if c = '|' ∧ rest.head? ≠ some '|' ∧ directsOutput then
            { scanner with isPrinting := false }.take (.output "|") rest
          else if c.isDigit ∨ (c = '.' ∧ rest.head?.any Char.isDigit) then
            let (written, rest) := decimal text
            scanner.take (.number (leadingNumber written) written) rest
          else if isWordChar c then scanner.takeWord text
          else scanner.takeSign text

def advance (scanner : RuleScanner) : RuleScanner :=
  scan (scanner.rest.length + 2) scanner

end RuleScanner

end AsmLens.Shell
