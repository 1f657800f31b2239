import AsmLens.Shell.Reader

namespace AsmLens.Shell

/-- A document that has been announced: its number, the line that ends it, whether it is taken as it is,
and whether tabs at the starts of its lines are left out. -/
structure Announcement where
  number : Nat
  ending : Text
  isLiteral : Bool
  dropsTabs : Bool
  deriving DecidableEq, Repr

namespace Announcement

/-- What a line adds to the document. -/
def kept (announcement : Announcement) (line : Text) : Text :=
  if announcement.dropsTabs then line.dropWhile (· = '\t') else line

def ends (announcement : Announcement) (line : Text) : Bool :=
  announcement.kept line = announcement.ending

end Announcement

/-- The front of an expansion between braces: the whole of it, or what is to be done with the operand that
follows, of which a character may have been read. -/
inductive BraceHead where
  | whole (name : Text) (change : Change)
  | operand (name : Text) (change : Change) (next : Option Char)

namespace BraceHead

/-- What follows the name of a parameter, as far as that can be told. -/
def afterName (name : Text) : Text → Option BraceHead
  | [] => none
  | '\x7d' :: _ => some (.whole name .asIs)
  | [':'] => none
  | ':' :: c :: _ => some (.operand name (change true c) none)
  | '#' :: rest => cut .cutStart '#' rest
  | '%' :: rest => cut .cutEnd '%' rest
  | c :: _ => some (.operand name (change false c) none)
where
  change (orEmpty : Bool) (c : Char) : Change :=
    if c = '-' then .otherwise orEmpty
    else if c = '=' then .assign orEmpty
    else if c = '+' then .instead orEmpty
    else if c = '?' then .demand orEmpty
    else .unreadable
  cut (how : Bool → Change) (sign : Char) : Text → Option BraceHead
    | [] => none
    | c :: _ =>
        if c = sign then some (.operand name (how true) none)
        else some (.operand name (how false) (some c))

/-- The letters of a name at the front of a text, which may be a number. -/
def nameAt (text : Text) : Text :=
  match text with
  | c :: _ => text.takeWhile (if c.isDigit then Char.isDigit else Token.isNameChar)
  | [] => []

/-- The front of an expansion by its first characters, as soon as they tell it. -/
def ofText : Text → Option BraceHead
  | [] => none
  | c :: rest =>
      if Token.isNameChar c then
        let name := nameAt (c :: rest)
        afterName name ((c :: rest).drop name.length)
      else if c = '\x7d' then some (.operand [] .unreadable (some c))
      else
        match rest with
        | [] => none
        | d :: more =>
            if c ≠ '#' then
              if Token.isSpecial c then afterName [c] rest
              else some (.operand [] .unreadable (some d))
            else if Token.isNameChar d then
              let name := nameAt rest
              match rest.drop name.length with
              | [] => none
              | '\x7d' :: _ => some (.whole name .length)
              | e :: _ => some (.operand name .unreadable (some e))
            else if d = '\x7d' then some (.whole ['#'] .asIs)
            else
              match more with
              | [] => none
              | '\x7d' :: _ =>
                  if Token.isSpecial d then some (.whole [d] .length)
                  else some (.operand [] .unreadable (some '\x7d'))
              | _ => afterName ['#'] rest

end BraceHead

/-- What a layer of a script is: commands, the content of a document, an arithmetic expression with some
parentheses open, or the operand of an expansion, in which quotes count or only keep braces from ending
it. -/
inductive Realm where
  | commands
  | document
  | arithmetic (depth : Nat)
  | operand (name : Text) (change : Change) (isQuoted : Bool)
  deriving DecidableEq, Repr

inductive QuoteKind where
  | bare
  | single
  | double
  deriving DecidableEq, Repr

/-- A layer of a script that has begun: the quotes that are open in it, the word that has begun, the
finished tokens, and the documents that are to come. -/
structure Layer where
  realm : Realm
  quotes : QuoteKind := .bare
  word : Option Word := none
  tokens : List Token := []
  announced : List Announcement := []
  /-- How many characters stand before it, and the line that it starts in. -/
  start : Nat := 0
  line : Nat := 1

namespace Layer

def put (layer : Layer) (token : Token) : Layer :=
  { layer with tokens := layer.tokens ++ [token] }

def push (layer : Layer) (piece : Piece) : Layer :=
  { layer with word := some (layer.word.getD [] ++ [piece]) }

/-- Whether what stands in the layer now is kept from falling apart. -/
def isQuoted (layer : Layer) : Bool :=
  layer.quotes ≠ .bare ||
    match layer.realm with
    | .commands | .operand _ _ false => false
    | _ => true

/-- Closes double quotes. Around all parameters and nothing else they add nothing. -/
def closeQuotes (layer : Layer) : Layer :=
  let word :=
    match layer.word.map List.reverse with
    | some (.parameter ['@'] .asIs [] true :: .text [] true :: before) =>
        some ((Piece.parameter ['@'] .asIs [] true :: before).reverse)
    | _ => layer.word
  { layer with quotes := .bare, word }

/-- Whether the word that has begun ends a document, in which no expansions count. -/
def isEnding (layer : Layer) : Bool :=
  match layer.realm, layer.tokens.getLast? with
  | .commands, some (.operator _ ['<', '<']) | .commands, some (.operator _ ['<', '<', '-']) => true
  | _, _ => false

/-- The characters that a backslash protects. It protects all of them where quotes count and none is
open. -/
def protects (layer : Layer) (c : Char) : Bool :=
  let isOperand : Bool :=
    match layer.realm with
    | .operand _ _ _ => true
    | _ => false
  !layer.isQuoted || "$\x60\\".toList.contains c || (c = '"' && layer.realm ≠ .document) ||
    (c = '\x7d' && isOperand)

end Layer

/-- What the next character of a script belongs to. -/
inductive LexMode where
  | plain
  | escape
  | dollar
  | parenthesis
  | name (letters : Text)
  | braces (letters : Text)
  /-- The script so far, last character first. -/
  | backquotes (script : Text) (isEscaped : Bool)
  | parenthesisEnd
  | operator (symbol : Text)
  | comment
  | document (content line : Text)
  deriving DecidableEq, Repr

/-- A script read up to some character: the innermost layer and those around it, from the inside out, and
all characters, last one first. What is wrong with it is told as soon as it is seen. -/
structure Lexer where
  mode : LexMode := .plain
  layer : Layer
  around : List Layer := []
  line : Nat := 1
  documents : Nat := 0
  past : Text := []
  count : Nat := 0
  failure : Option (Nat × ScriptError) := none

namespace Lexer

def onLayer (lexer : Lexer) (change : Layer → Layer) : Lexer :=
  { lexer with mode := .plain, layer := change lexer.layer }

def put (lexer : Lexer) (token : Token) : Lexer :=
  lexer.onLayer fun layer => layer.put token

def push (lexer : Lexer) (piece : Piece) : Lexer :=
  lexer.onLayer fun layer => layer.push piece

/-- Adds a character that stands for itself. -/
def pushChar (lexer : Lexer) (c : Char) : Lexer :=
  lexer.push (.text [c] lexer.layer.isQuoted)

/-- Opens or closes quotes. -/
def quote (lexer : Lexer) (quotes : QuoteKind) : Lexer :=
  lexer.onLayer fun layer => { layer.push (.text [] true) with quotes }

/-- Begins a layer inside the one at work. -/
def enter (lexer : Lexer) (realm : Realm) : Lexer :=
  { lexer with
    mode := .plain
    layer := { realm, start := lexer.count, line := lexer.line }
    around := lexer.layer :: lexer.around }

/-- Ends the layer at work and adds what it stands for to the one around it. -/
def leave (lexer : Lexer) (piece : Layer → Bool → Piece) : Lexer :=
  match lexer.around with
  | [] => lexer
  | outer :: around =>
      { lexer with
        mode := .plain
        layer := outer.push (piece lexer.layer outer.isQuoted)
        around }

/-- The error that comes first when a layer breaks off with one. The layers around it have not been looked
at before. -/
def firstError (error : Nat × ScriptError) (layer : Layer) : Nat × ScriptError :=
  match layer.realm with
  | .commands =>
      match Reader.enclosureEnd (layer.tokens ++ [.finish error.1 (some error.2)]) with
      | .error first => first
      | .ok _ => error
  | _ => error

def fail (lexer : Lexer) (line : Nat) (error : ScriptError) : Lexer :=
  match lexer.around with
  | [] => { lexer with mode := .plain, failure := some (line, error) }
  | around =>
      let inner := lexer.layer :: around.dropLast
      { lexer with
        mode := .plain
        layer := around.getLastD lexer.layer
        around := []
        failure := some (inner.foldl firstError (line, error)) }

/-- The document that a word announces when it follows a sign for one. -/
def announcement (lexer : Lexer) (word : Word) (dropsTabs : Bool) : Announcement where
  number := lexer.documents
  ending := word.flatMap fun
    | .text value _ => value
    | _ => []
  isLiteral := word.any fun
    | .text _ isQuoted => isQuoted
    | _ => false
  dropsTabs

def close (lexer : Lexer) : Lexer :=
  match lexer.layer.word with
  | none => lexer
  | some word =>
      let closed := { lexer with layer := { lexer.layer with word := none } }
      let announce (dropsTabs : Bool) : Lexer :=
        { closed with
          layer := { closed.layer.put (.document lexer.documents []) with
            announced := lexer.layer.announced ++ [lexer.announcement word dropsTabs] }
          documents := lexer.documents + 1 }
      match lexer.layer.tokens.getLast? with
      | some (.operator _ ['<', '<']) => announce false
      | some (.operator _ ['<', '<', '-']) => announce true
      | _ => closed.put (.word lexer.line word)

/-- A number that stands directly before a redirection is the descriptor it is for. -/
def closeBeforeOperator (lexer : Lexer) (symbol : Char) : Lexer :=
  match lexer.layer.word.bind Token.plainText? with
  | some digits =>
      if (symbol = '>' ∨ symbol = '<') ∧ digits ≠ [] ∧ digits.all Char.isDigit then
        let number := digits.foldl (fun value c => 10 * value + (c.toNat - '0'.toNat)) 0
        lexer.onLayer fun layer => { layer.put (.descriptor number) with word := none }
      else
        lexer.close
  | none => lexer.close

/-- A parenthesis that closes. The commands behind `$(` end with the one that they leave over. -/
def closeParenthesis (lexer : Lexer) : Lexer :=
  let closed := lexer.close.put (.operator lexer.line [')'])
  if closed.around.isEmpty then closed
  else
    match Reader.enclosure closed.layer.tokens with
    | .unfinished => closed
    | .wrong line error => closed.fail line error
    | .closed =>
        let script := (lexer.past.take (lexer.count - lexer.layer.start)).reverse
        closed.leave fun layer isQuoted => .command layer.line script isQuoted

/-- The next character of commands, outside quotes. -/
def stepCommands (lexer : Lexer) (c : Char) : Lexer :=
  if c = '\n' then
    let closed := lexer.close.put (.newline lexer.line)
    if closed.layer.announced.isEmpty then closed else { closed with mode := .document [] [] }
  else if c = ' ' ∨ c = '\t' then { lexer.close with mode := .plain }
  else if c = ')' then (lexer.closeBeforeOperator c).closeParenthesis
  else if Token.operators.contains [c] then
    { lexer.closeBeforeOperator c with mode := .operator [c] }
  else if c = '#' ∧ lexer.layer.word.isNone then { lexer with mode := .comment }
  else if c = '\'' then lexer.quote .single
  else if c = '"' then lexer.quote .double
  else lexer.pushChar c

/-- The next character of an arithmetic expression. -/
def stepArithmetic (lexer : Lexer) (depth : Nat) (c : Char) : Lexer :=
  let deepen (depth : Nat) : Lexer :=
    lexer.onLayer fun layer => { layer.push (.text [c] true) with realm := .arithmetic depth }
  if c = '(' then deepen (depth + 1)
  else if c ≠ ')' then lexer.pushChar c
  else
    match depth with
    | 0 => { lexer with mode := .parenthesisEnd }
    | depth + 1 => deepen depth

/-- The next character of an operand. Between quotes of its own a brace does not end it. -/
def stepOperand (lexer : Lexer) (name : Text) (change : Change) (isQuoted : Bool) (c : Char) :
    Lexer :=
  if c = '"' then
    if lexer.layer.quotes = .bare then lexer.quote .double else lexer.onLayer Layer.closeQuotes
  else if c = '\'' ∧ !isQuoted ∧ lexer.layer.quotes = .bare then lexer.quote .single
  else if c = '\x7d' ∧ lexer.layer.quotes = .bare then
    lexer.leave fun layer isQuoted => .parameter name change (layer.word.getD []) isQuoted
  else lexer.pushChar c

/-- The next character where nothing else has begun. -/
def stepPlain (lexer : Lexer) (c : Char) : Lexer :=
  if lexer.layer.quotes = .single then
    if c = '\'' then lexer.onLayer fun layer => { layer with quotes := .bare }
    else lexer.pushChar c
  else if c = '\\' then { lexer with mode := .escape }
  else if c = '$' ∧ !lexer.layer.isEnding then { lexer with mode := .dollar }
  else if c = '\x60' ∧ !lexer.layer.isEnding then { lexer with mode := .backquotes [] false }
  else
    match lexer.layer.realm with
    | .operand name change isQuoted => lexer.stepOperand name change isQuoted c
    | .arithmetic depth => lexer.stepArithmetic depth c
    | .document => lexer.pushChar c
    | .commands =>
        if lexer.layer.quotes = .bare then lexer.stepCommands c
        else if c = '"' then lexer.onLayer Layer.closeQuotes
        else lexer.pushChar c

def stepDollar (lexer : Lexer) (c : Char) : Lexer :=
  if c = '(' then { lexer with mode := .parenthesis }
  else if c = '\x7b' then { lexer with mode := .braces [] }
  else if Token.isNameStart c then { lexer with mode := .name [c] }
  else if c.isDigit || Token.isSpecial c then
    lexer.push (.parameter [c] .asIs [] lexer.layer.isQuoted)
  else (lexer.pushChar '$').stepPlain c

def stepEscape (lexer : Lexer) (c : Char) : Lexer :=
  if c = '\n' then { lexer with mode := .plain }
  else if lexer.layer.protects c then lexer.push (.text [c] true)
  else lexer.push (.text ['\\', c] true)

/-- The front of an expansion between braces. Quotes count in patterns that are cut off, and in other
operands where they count around the expansion. -/
def stepBraces (lexer : Lexer) (letters : Text) : Lexer :=
  match BraceHead.ofText letters with
  | none => { lexer with mode := .braces letters }
  | some (.whole name change) => lexer.push (.parameter name change [] lexer.layer.isQuoted)
  | some (.operand name change next) =>
      let isPattern : Bool :=
        match change with
        | .cutStart _ | .cutEnd _ => true
        | _ => false
      let entered := lexer.enter (.operand name change (lexer.layer.isQuoted && !isPattern))
      next.elim entered entered.stepPlain

/-- The script between backquotes, where a backslash protects them. -/
def withoutEscapes (isQuoted : Bool) : Text → Text
  | [] => []
  | ['\\'] => ['\\']
  | '\\' :: c :: rest =>
      if c = '\x60' ∨ c = '$' ∨ c = '\\' ∨ (c = '"' ∧ isQuoted) then
        c :: withoutEscapes isQuoted rest
      else '\\' :: c :: withoutEscapes isQuoted rest
  | c :: rest => c :: withoutEscapes isQuoted rest

/-- The next character between backquotes. The lines of the script are counted on their own, and its errors
are those that `check` tells. -/
def stepBackquotes (check : Text → Option (Nat × ScriptError)) (lexer : Lexer) (script : Text)
    (isEscaped : Bool) (c : Char) : Lexer :=
  if c = '\x60' ∧ !isEscaped then
    let isQuoted := lexer.layer.isQuoted
    let inside := withoutEscapes isQuoted script.reverse
    match check inside with
    | some (line, error) => lexer.fail line error
    | none => lexer.push (.command 1 inside isQuoted)
  else
    { lexer with mode := .backquotes (c :: script) (c = '\\' && !isEscaped) }

/-- Gives the document that was announced first its content. -/
def endDocument (lexer : Lexer) (content : Announcement → Except (Nat × ScriptError) Word) : Lexer :=
  match lexer.layer.announced with
  | [] => { lexer with mode := .plain }
  | first :: others =>
      match content first with
      | .error (line, error) =>
          let before := { lexer with
            layer := { lexer.layer with tokens := lexer.layer.tokens.dropLast } }
          before.fail line error
      | .ok word =>
          let fill : Token → Token
            | .document number content =>
                .document number (if number = first.number then word else content)
            | token => token
          { lexer with
            layer := { lexer.layer with
              tokens := lexer.layer.tokens.map fill
              announced := others }
            mode := if others.isEmpty then .plain else .document [] [] }

/-- Takes one more character outside documents. -/
def stepOne (check : Text → Option (Nat × ScriptError)) (lexer : Lexer) (c : Char) : Lexer :=
  match lexer.mode with
  | .plain => lexer.stepPlain c
  | .escape => lexer.stepEscape c
  | .dollar => lexer.stepDollar c
  | .parenthesis =>
      if c = '(' then lexer.enter (.arithmetic 0) else (lexer.enter .commands).stepPlain c
  | .name letters =>
      if Token.isNameChar c then { lexer with mode := .name (letters ++ [c]) }
      else (lexer.push (.parameter letters .asIs [] lexer.layer.isQuoted)).stepPlain c
  | .braces letters => lexer.stepBraces (letters ++ [c])
  | .backquotes script isEscaped => lexer.stepBackquotes check script isEscaped c
  | .parenthesisEnd =>
      if c = ')' then lexer.leave fun layer isQuoted => .arithmetic (layer.word.getD []) isQuoted
      else (lexer.pushChar ')').stepPlain c
  | .operator symbol =>
      if Token.operators.contains (symbol ++ [c]) then
        { lexer with mode := .operator (symbol ++ [c]) }
      else (lexer.put (.operator lexer.line symbol)).stepPlain c
  | .comment => if c = '\n' then lexer.stepCommands c else lexer
  | .document _ _ => lexer

/-- Counts a character and its line. -/
def passed (lexer : Lexer) (c : Char) : Lexer :=
  { lexer with
    line := if c = '\n' then lexer.line + 1 else lexer.line
    past := c :: lexer.past
    count := lexer.count + 1 }

def step (check : Text → Option (Nat × ScriptError)) (lexer : Lexer) (c : Char) : Lexer :=
  if lexer.failure.isSome then lexer else (lexer.stepOne check c).passed c

/-- What is wrong with a script that ends here inside a layer, if quotes are open in it or it is not made of
commands. -/
def openError? (isDocument : Bool) (layer : Layer) : Option ScriptError :=
  match layer.realm with
  | .arithmetic _ => some .missingParentheses
  | .operand _ _ isQuoted =>
      if (isQuoted ∨ layer.quotes ≠ .bare) ∧ !isDocument then some .unterminatedQuote
      else some .missingBrace
  | .commands => if layer.quotes ≠ .bare then some .unterminatedQuote else none
  | .document => none

/-- The script with what its end brings to an end. -/
def ended (lexer : Lexer) : Lexer :=
  let isDocument := (lexer.layer :: lexer.around).all fun layer => layer.realm ≠ .commands
  let settled :=
    match lexer.mode with
    | .escape => lexer.push (.text ['\\'] true)
    | .dollar => lexer.pushChar '$'
    | .name letters => lexer.push (.parameter letters .asIs [] lexer.layer.isQuoted)
    | .operator symbol => lexer.put (.operator lexer.line symbol)
    | .parenthesis => lexer.enter .commands
    | .braces _ => lexer.enter (.operand [] .unreadable lexer.layer.isQuoted)
    | _ => lexer
  if lexer.failure.isSome then lexer
  else
    match lexer.mode with
    | .backquotes _ _ => lexer.fail lexer.line .unterminatedBackquote
    | _ =>
        match openError? isDocument settled.layer, settled.around with
        | some error, _ => settled.fail settled.line error
        | none, [] => if settled.layer.realm = .document then settled else settled.close
        | none, _ :: _ =>
            let closed := settled.close
            match Reader.enclosureEnd (closed.layer.tokens ++ [.finish closed.line none]) with
            | .ok _ => closed
            | .error (line, error) => closed.fail line error

/-- The content of a document that starts at a line, in which expansions count and quotes do not. What it
leaves open shows in another line. -/
def contentOf (check : Text → Option (Nat × ScriptError)) (line after : Nat) (text : Text) :
    Except (Nat × ScriptError) Word :=
  let start : Lexer := { layer := { realm := .document }, line }
  let lexer := text.foldl (step check) start
  match lexer.failure, lexer.ended.failure with
  | some error, _ => .error error
  | none, some (_, error) => .error (after, error)
  | none, none => .ok (lexer.ended.layer.word.getD [])

/-- Takes one more character, also of a document. -/
def stepAll (check : Text → Option (Nat × ScriptError)) (lexer : Lexer) (c : Char) : Lexer :=
  match lexer.mode with
  | .document content line =>
      if lexer.failure.isSome then lexer
      else
        let after : Lexer :=
          if c ≠ '\n' then { lexer with mode := .document content (line ++ [c]) }
          else
            match lexer.layer.announced with
            | [] => { lexer with mode := .plain }
            | first :: _ =>
                if first.ends line then
                  lexer.endDocument (documentWord check lexer.line (lexer.line + 1) content)
                else { lexer with mode := .document (content ++ first.kept line ++ ['\n']) [] }
        after.passed c
  | _ => lexer.step check c
where
  documentWord (check : Text → Option (Nat × ScriptError)) (line after : Nat) (content : Text)
      (announcement : Announcement) : Except (Nat × ScriptError) Word :=
    if announcement.isLiteral then .ok [.text content true]
    else contentOf check (line - content.count '\n') after content

/-- The tokens of a script. What is wrong with it is told by the last of them. -/
def finish (check : Text → Option (Nat × ScriptError)) (lexer : Lexer) : List Token :=
  let settled : Lexer :=
    match lexer.mode with
    | .document content line =>
        let isEnd := lexer.layer.announced.head?.any fun (first : Announcement) => first.ends line
        let last := if isEnd then [] else line
        lexer.endDocument (stepAll.documentWord check lexer.line lexer.line (content ++ last))
    | _ => lexer
  let final := settled.ended
  match final.failure with
  | some (line, error) => final.layer.tokens ++ [Token.finish line (some error)]
  | none => final.layer.tokens ++ [Token.finish final.line none]

/-- The tokens of a script that starts at a line. As many scripts between backquotes may stand inside one
another. -/
def tokensOf : Nat → Nat → Text → List Token
  | depth, line, script =>
      let check : Text → Option (Nat × ScriptError) :=
        match depth with
        | 0 => fun _ => none
        | depth + 1 => fun inside =>
            match Reader.enclosed (tokensOf depth 1 inside) with
            | .ok (_, [Token.finish line (some error)]) => some (line, error)
            | .ok _ => none
            | .error error => some error
      let start : Lexer := { layer := { realm := .commands, line }, line }
      (script.foldl (stepAll check) start).finish check

end Lexer

/-- How many scripts between backquotes may stand inside one another. -/
def backquoteLimit : Nat := 16

/-- The tokens of a script that starts at a line. -/
def Token.ofScript (line : Nat) (script : Text) : List Token :=
  Lexer.tokensOf backquoteLimit line script

end AsmLens.Shell
