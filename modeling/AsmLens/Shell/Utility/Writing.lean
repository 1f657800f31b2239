import AsmLens.Shell.Format
import AsmLens.Shell.Utility.Basic

namespace AsmLens.Shell

/-- The `echo` of the shell, which reads escapes. -/
def shellEcho (arguments : List Text) : Outcome :=
  let (words, ending) : List Text × Text :=
    match arguments with
    | ['-', 'n'] :: words => (words, [])
    | words => (words, "\n")
  let (bytes, finish?) := Escapes.bytes ⟨false, false, true, true, false⟩ (Text.join " " words)
  .ofBytes (bytes ++ if finish?.isSome then [] else ending.encode)

/-- The options of the `echo` that is a program: whether a line feed ends it and whether it reads
escapes. A word is an option if it is made of option letters only. -/
def echoOptions : Bool → Bool → List Text → Bool × Bool × List Text
  | newline, escapes, ('-' :: letter :: letters) :: rest =>
      if (letter :: letters).all fun c => "neE".toList.contains c then
        let escapes := (letter :: letters).foldl
          (fun before c => if c = 'e' then true else if c = 'E' then false else before) escapes
        echoOptions (newline && !(letter :: letters).contains 'n') escapes rest
      else
        (newline, escapes, ('-' :: letter :: letters) :: rest)
  | newline, escapes, words => (newline, escapes, words)

def echo (arguments : List Text) : Outcome :=
  let (newline, escapes, words) := echoOptions true false arguments
  let line := Text.join " " words
  let (bytes, finish?) :=
    if escapes then Escapes.bytes ⟨true, false, true, true, false⟩ line else (line.encode, none)
  .ofBytes (bytes ++ if newline && finish?.isNone then [10] else [])

def workingDirectory (tree : FileTree) : Outcome :=
  .ofText (FileTree.absolute tree.workingDirectory ++ "\n")

namespace Invocation

def pwd (invocation : Invocation) : Effect :=
  invocation.reading "L=logical P=physical" 1 fun options =>
    let note : Outcome :=
      if options.operands.isEmpty then {}
      else .ofError (invocation.message "ignoring non-option arguments") 0
    invocation.report (note.append (workingDirectory invocation.tree))

/-- Refuses operands that a program does not take. -/
def withoutOperands (invocation : Invocation) (options : Options) (outcome : Outcome) : Effect :=
  match options.operands with
  | [] => invocation.report outcome
  | word :: _ => invocation.misuse ("extra operand " ++ curled word) 1

/-- Writes the values of variables. -/
def printenv (invocation : Invocation) : Effect :=
  match Options.read (OptionForm.table "0=null") true {} invocation.arguments with
  | .error error => invocation.misuse error.message 2
  | .ok options =>
      let ending : Text := if options.has "0" then ['\x00'] else "\n"
      if options.operands.isEmpty then
        invocation.report <| .ofText <|
          invocation.bindings.flatMap fun entry => entry.1 ++ "=" ++ entry.2 ++ ending
      else
        let values := options.operands.map invocation.environment
        invocation.report
          ⟨[(.output, Text.encode
              ((values.filterMap id).flatMap fun value => value ++ ending))],
            if values.all Option.isSome then 0 else 1⟩

def whoami (invocation : Invocation) : Effect :=
  invocation.reading "u" 1 fun options => invocation.withoutOperands options (.ofText "root\n")

def userId (invocation : Invocation) : Effect :=
  invocation.reading "a g=group G=groups n=name r=real u=user z=zero Z=context" 1 fun options =>
    let isNumber := options.has "u" || options.has "g" || options.has "G"
    let line : Text :=
      if !isNumber then "uid=0(root) gid=0(root) groups=0(root)\n"
      else if options.has "n" then "root\n"
      else "0\n"
    invocation.report (.ofText line)

def uname (invocation : Invocation) : Effect :=
  invocation.reading ("a=all s=kernel-name n=nodename r=kernel-release v=kernel-version m=machine " ++
    "p=processor i=hardware-platform o=operating-system") 1 fun options =>
    let parts : List (Text × Text) := [("s", "Linux"), ("m", "x86_64"), ("p", "unknown"),
      ("i", "unknown"), ("o", "GNU/Linux")]
    let shown := parts.filter fun part => options.has part.1
    invocation.withoutOperands options <| .ofText <|
      Text.join " " (if shown.isEmpty then ["Linux"] else shown.map Prod.snd) ++ "\n"

/-- Tells one thing that no operand changes. -/
def fixedLine (outcome : Outcome) (invocation : Invocation) : Effect :=
  invocation.reading "" 1 fun options => invocation.withoutOperands options outcome

def groups (invocation : Invocation) : Effect :=
  invocation.reading "" 1 fun options =>
    let outcomes := options.operands.map fun (user : Text) =>
      if user = "root" then Outcome.ofText "root : root\n"
      else .ofError (invocation.message (curled user ++ ": no such user")) 1
    invocation.report <|
      if options.operands.isEmpty then .ofText "root\n" else outcomes.foldl Outcome.append {}

def tty (invocation : Invocation) : Effect :=
  invocation.reading "s=silent =quiet" 2 fun options =>
    let line : Text := if options.has "s" || options.has "quiet" then [] else "not a tty\n"
    invocation.withoutOperands options ⟨[(.output, line.encode)], 1⟩

/-- Whether a word is a length of time: a number that is not negative, and a letter for its unit. -/
def isDuration (word : Text) : Bool :=
  match Real.leading 64 word with
  | some (value, rest) =>
      !value.isNegative && value.magnitude ≠ .notANumber &&
        (rest.isEmpty || ([['s'], ['m'], ['h'], ['d']] : List Text).contains rest)
  | none => false

def sleep (invocation : Invocation) : Effect :=
  invocation.reading "" 1 fun options =>
    let wrong := options.operands.filter fun word => !isDuration word
    if options.operands.isEmpty then invocation.misuse "missing operand" 1
    else if wrong.isEmpty then invocation.report {}
    else
      let lines := wrong.flatMap fun word =>
        invocation.message ("invalid time interval " ++ curled word)
      invocation.report (.ofError (lines ++ invocation.hint) 1)

end Invocation

/-- A number as it is written: its value without the point, how many digits stand behind that, and how
long it is. -/
structure WrittenNumber where
  value : Int
  places : Nat
  isNegative : Bool := false
  width : Nat := 1

namespace WrittenNumber

def ofText? (word : Text) : Option WrittenNumber :=
  let trimmed := word.dropWhile (" \t\n\r\x0b\x0c".toList.contains)
  let isNegative := trimmed.head? = some '-'
  let digits := if isNegative ∨ trimmed.head? = some '+' then trimmed.tail else trimmed
  let signed (value : Nat) : Int := if isNegative then -value else value
  let width := digits.length + if isNegative then 1 else 0
  match digits with
  | '0' :: 'x' :: rest | '0' :: 'X' :: rest =>
      match Real.leadingDigits 16 rest with
      | some (value, 0, []) => some ⟨signed value, 0, isNegative, width⟩
      | _ => none
  | _ => do
      let (value, places, rest) ← Real.leadingDigits 10 digits
      let (exponent, rest) := Real.leadingExponent 'e' rest
      let shift := exponent - places
      if rest ≠ [] then none
      else if 0 ≤ shift then some ⟨signed (value * Nat.pow 10 shift.toNat), 0, isNegative, width⟩
      else some ⟨signed value, (-shift).toNat, isNegative, width⟩

def scaled (number : WrittenNumber) (places : Nat) : Int :=
  number.value * Nat.pow 10 (places - number.places)

def text (value : Int) (places : Nat) (showsSign : Bool) : Text :=
  (if value < 0 ∨ showsSign then ['-'] else []) ++
    Magnitude.fixedText value.natAbs (Nat.pow 10 places) places false

end WrittenNumber

/-- Why a text is no format for one number. -/
inductive NumberFormatError where
  | missing
  | unknown (letter : Char)
  | second

def NumberFormatError.message (format : Text) : NumberFormatError → Text
  | .missing => "format " ++ curled format ++ " has no % directive"
  | .unknown letter => "format " ++ curled format ++ " has unknown %" ++ [letter] ++ " directive"
  | .second => "format " ++ curled format ++ " has too many % directives"

/-- Checks that a format has one place for a real number. -/
def checkNumberFormat (format : Text) : Except NumberFormatError (List FormatPart) := do
  let parts := FormatPart.ofText .program false format
  let places := parts.filter fun
    | .bytes _ => false
    | _ => true
  match places with
  | [] => .error .missing
  | .conversion conversion :: rest =>
      if !"aAeEfFgG".toList.contains conversion.letter then .error (.unknown conversion.letter)
      else if rest.isEmpty then .ok parts
      else .error .second
  | .unknown directive :: _ => .error (.unknown (directive.getLastD '%'))
  | _ => .error .missing

namespace Invocation

/-- How many numbers `seq` writes at most where there is no end. -/
def seqLimit : Nat := 100000

/-- The numbers from one to another by some step, in one of the formats that have been asked for. -/
def numbers (options : Options) (format : Option (List FormatPart))
    (first step last : WrittenNumber) : Outcome :=
  let places := max first.places step.places
  let exact := max places last.places
  let shown (value : Int) : Text :=
    WrittenNumber.text (value / Nat.pow 10 (exact - places)) places
      (value = 0 && first.isNegative && first.value = 0)
  let count := ((last.scaled exact - first.scaled exact).fdiv (step.scaled exact) + 1).toNat
  let values := (List.range count).map fun (index : Nat) =>
    first.scaled exact + step.scaled exact * Int.ofNat index
  let widthOf (number : WrittenNumber) : Nat :=
    let whole := number.width - if number.places = 0 then 0 else number.places + 1
    whole + if places = 0 then 0 else places + 1
  let width := max (widthOf first) (widthOf last)
  let padded (text : Text) : Text :=
    if !options.has "w" then text
    else if text.head? = some '-' then
      '-' :: List.replicate (width - text.length) '0' ++ text.tail
    else
      List.replicate (width - text.length) '0' ++ text
  let write (value : Int) : List UInt8 :=
    match format with
    | none => (padded (shown value)).encode
    | some parts =>
        let real : Real := ⟨value < 0, .ofQuotient 64 value.natAbs (Nat.pow 10 exact)⟩
        Formatter.ofReal parts real
  let separator := ((options.value? "s").getD "\n").encode
  if values.isEmpty then {}
  else .ofBytes ((values.map write).intersperse separator |>.flatten |> (· ++ [10]))

def seq (invocation : Invocation) : Effect :=
  let isNumber (word : Text) : Bool :=
    match word with
    | '-' :: c :: _ => c.isDigit || c = '.'
    | _ => false
  let (front, rest) := (invocation.arguments.takeWhile (!isNumber ·),
    invocation.arguments.dropWhile (!isNumber ·))
  let takesOperand : Bool :=
    match front.getLast? with
    | some word => ([['-', 'f'], ['-', 's']] : List Text).contains word
    | none => false
  let words := if takesOperand then invocation.arguments else front
  match Options.read (OptionForm.table "f:=format s:=separator w=equal-width") true {} words with
  | .error error => invocation.misuse error.message 1
  | .ok options =>
      let operands := options.operands ++ if takesOperand then [] else rest
      let one : WrittenNumber := ⟨1, 0, false, 1⟩
      let run (first step last : WrittenNumber) : Effect :=
        match (options.value? "f").map fun format => (format, checkNumberFormat format) with
        | some (format, .error error) => invocation.refuse (error.message format) 1
        | some (_, .ok parts) =>
            if options.has "w" then
              invocation.misuse
                "format string may not be specified when printing equal width strings" 1
            else invocation.report (numbers options (some parts) first step last)
        | none => invocation.report (numbers options none first step last)
      let isEndless (word : Text) : Bool := word = "inf" || word = "infinity"
      let numberOf (word : Text) : Option WrittenNumber :=
        if isEndless word then some ⟨seqLimit, 0, false, 1⟩ else WrittenNumber.ofText? word
      if operands.isEmpty then invocation.misuse "missing operand" 1
      else if 3 < operands.length then
        invocation.misuse ("extra operand " ++ curled (operands.getD 3 [])) 1
      else
        match operands.find? fun word => (numberOf word).isNone with
        | some word =>
            if word = "nan" then
              invocation.misuse ("invalid " ++ curled "not-a-number" ++ " argument: " ++
                curled word) 1
            else
              invocation.misuse ("invalid floating point argument: " ++ curled word) 1
        | none =>
            match operands, operands.filterMap numberOf with
            | _, [last] => run one one last
            | _, [first, last] => run first one last
            | [_, word, _], [first, step, last] =>
                if step.value = 0 then
                  invocation.misuse ("invalid Zero increment value: " ++ curled word) 1
                else
                  run first step last
            | _, _ => invocation.report {}

end Invocation

end AsmLens.Shell
