import AsmLens.Shell.Utility.Basic
import AsmLens.Text.Octets

namespace AsmLens.Shell

/-- What `cat` shows of a file besides its bytes. -/
structure Display where
  numbersAll : Bool
  numbersFilled : Bool
  squeezes : Bool
  showsEnds : Bool
  showsTabs : Bool
  showsControls : Bool

/-- A display at work: the lines counted so far, and how many empty ones have just passed, if a line
starts here. -/
structure DisplayState where
  counted : Nat := 0
  empty : Option Nat := some 0

namespace Display

/-- A byte as a control character or one with its high bit shows. -/
def visible (byte : UInt8) : List UInt8 :=
  let low (byte : UInt8) : List UInt8 :=
    if byte < 32 then [94, byte + 64] else if byte = 127 then [94, 63] else [byte]
  if byte < 128 then low byte else [77, 45] ++ low (byte - 128)

def shown (display : Display) (byte : UInt8) : List UInt8 :=
  if byte = 9 then if display.showsTabs then [94, 73] else [9]
  else if display.showsControls then visible byte
  else [byte]

def label (number : Nat) : List UInt8 :=
  Text.encode (rightAligned 6 (Text.ofNat number) ++ "\t")

def write (display : Display) : DisplayState → List UInt8 → List UInt8 × DisplayState
  | state, [] => ([], state)
  | state, byte :: rest =>
      if byte = 10 then
        let isEmpty := state.empty.isSome
        let empty := if isEmpty then state.empty.getD 0 + 1 else 0
        if display.squeezes && 1 < empty then
          write display { state with empty := some empty } rest
        else
          let isNumbered := isEmpty && display.numbersAll && !display.numbersFilled
          let counted := if isNumbered then state.counted + 1 else state.counted
          let (others, after) := write display ⟨counted, some empty⟩ rest
          ((if isNumbered then label counted else []) ++
            (if display.showsEnds then [36] else []) ++ 10 :: others, after)
      else
        let isNumbered :=
          state.empty.isSome && (display.numbersAll || display.numbersFilled)
        let counted := if isNumbered then state.counted + 1 else state.counted
        let (others, after) := write display ⟨counted, none⟩ rest
        let bytes :=
          if byte = 13 && display.showsEnds && rest.head? = some 10 then [94, 77]
          else display.shown byte
        ((if isNumbered then label counted else []) ++ bytes ++ others, after)

def ofOptions (options : Options) : Display where
  numbersAll := options.has "n"
  numbersFilled := options.has "b"
  squeezes := options.has "s"
  showsEnds := options.has "E" || options.has "A" || options.has "e"
  showsTabs := options.has "T" || options.has "A" || options.has "t"
  showsControls := options.has "v" || options.has "A" || options.has "e" || options.has "t"

end Display

namespace Invocation

def cat (invocation : Invocation) : Effect :=
  invocation.reading ("A=show-all b=number-nonblank e E=show-ends n=number s=squeeze-blank t " ++
    "T=show-tabs u v=show-nonprinting") 1 fun options =>
    let files := orStandardInput options.operands
    let display := Display.ofOptions options
    let outcome := files.foldl
      (fun (before : Outcome × DisplayState) path =>
        match invocation.read path with
        | .ok bytes =>
            let (shown, state) :=
              if options.found.isEmpty then (bytes, before.2) else display.write before.2 bytes
            (before.1.append (.ofBytes shown), state)
        | .error errno => (before.1.append (invocation.complaint path errno), before.2))
      ({}, {})
    invocation.reportRead files outcome.1

/-- Copies the input to the output and to files. -/
def tee (invocation : Invocation) : Effect :=
  invocation.reading "a=append i=ignore-interrupts p =output-error::" 1 fun options =>
    let effect := invocation.forEach options.operands fun tree path =>
      let before :=
        if options.has "a" then (tree.readBytes path).toOption.getD [] else []
      (tree.writeBytes path (before ++ invocation.input)).mapError fun errno =>
        shownName path ++ ": " ++ errno.text
    { effect with input := [], outcome := effect.outcome.append (.ofBytes invocation.input) }

/-- How many bytes `yes` writes, which has no end of its own. -/
def yesLimit : Nat := 262144

def yes (invocation : Invocation) : Effect :=
  let words := match invocation.arguments with
    | ['-', '-'] :: words => words
    | words => words
  let line := Text.encode ((if words.isEmpty then ['y'] else Text.join " " words) ++ "\n")
  invocation.report <| .ofBytes <|
    (List.replicate (yesLimit / line.length + 1) line).flatten

end Invocation

/-- A part of an input: so many of its lines or of its bytes, from its own end of the input or up to the
other one. -/
structure Portion where
  count : Nat := 10
  ofBytes : Bool := false
  spares : Bool := false
  deriving DecidableEq, Repr

namespace Portion

/-- The factor that letters behind a number stand for. -/
def factor? (letters : Text) : Option Nat :=
  let powers : List (Text × Nat) :=
    [("K", 1), ("k", 1), ("M", 2), ("m", 2), ("G", 3), ("T", 4), ("P", 5), ("E", 6)]
  if letters.isEmpty then some 1
  else if letters = "b" then some 512
  else
    powers.findSome? fun (letter, power) =>
      if letters = letter ∨ letters = letter ++ "iB" then some (Nat.pow 1024 power)
      else if letters = letter ++ "B" then some (Nat.pow 1000 power)
      else none

def count? (word : Text) : Option Nat := do
  let digits := word.takeWhile Char.isDigit
  let count ← Shell.count? digits
  let factor ← factor? (word.drop digits.length)
  if count * factor < Nat.pow 2 64 then some (count * factor) else none

/-- The portion that a word asks for: a sign tells which end is meant. -/
def ofWord? (sparingSign : Char) (ofBytes : Bool) (word : Text) : Option Portion :=
  match word with
  | sign :: rest =>
      if sign = '+' ∨ sign = '-' then
        (count? rest).map fun count => ⟨count, ofBytes, sign = sparingSign⟩
      else
        (count? word).map fun count => ⟨count, ofBytes, false⟩
  | [] => none

/-- The options that a number behind a dash stands for, where words may still be written like this. -/
def modern (command : Text) (arguments : List Text) : List Text :=
  match arguments with
  | (sign :: first :: letters) :: rest =>
      let word := first :: letters
      let digits := word.takeWhile Char.isDigit
      let letter := word.drop digits.length
      if digits.isEmpty ∨ !(sign = '-' ∨ (sign = '+' ∧ command = "tail")) then arguments
      else if letter ≠ [] ∧ !(letter.all "bclqvf".toList.contains) then arguments
      else
        let count := (if sign = '+' then ['+'] else []) ++ digits ++
          if letter.contains 'b' then ['b'] else []
        ['-', if letter.contains 'c' || letter.contains 'b' then 'c' else 'n'] :: count ::
          (letter.filter "qv".toList.contains).map (fun c => ['-', c]) ++ rest
  | arguments => arguments

def pieces (portion : Portion) (delimiter : UInt8) (bytes : List UInt8) : List (List UInt8) :=
  if portion.ofBytes then bytes.map ([·])
  else
    bytes.foldr
      (fun byte lines =>
        match lines with
        | [] => [[byte]]
        | line :: lines =>
            if byte = delimiter then [byte] :: line :: lines else (byte :: line) :: lines) []

def ofStart (portion : Portion) (delimiter : UInt8) (bytes : List UInt8) : List UInt8 :=
  let pieces := portion.pieces delimiter bytes
  (pieces.take (if portion.spares then pieces.length - portion.count else portion.count)).flatten

def ofEnd (portion : Portion) (delimiter : UInt8) (bytes : List UInt8) : List UInt8 :=
  let pieces := portion.pieces delimiter bytes
  (pieces.drop
    (if portion.spares then portion.count - 1 else pieces.length - portion.count)).flatten

end Portion

namespace Invocation

/-- Copies a portion of each file. With more than one file, each gets a heading. -/
def copyPortion (invocation : Invocation) (sparingSign : Char)
    (copy : Portion → UInt8 → List UInt8 → List UInt8) : Effect :=
  let arguments := Portion.modern invocation.name invocation.arguments
  Invocation.reading { invocation with arguments } ("n:=lines c:=bytes q=quiet,silent v=verbose " ++
    "z=zero-terminated f::=follow F =pid: s:=sleep-interval =retry") 1 fun options =>
    let asked := options.found.filter fun entry => entry.1 = ['n'] ∨ entry.1 = ['c']
    let portionOf (entry : Text × Text) : Option Portion :=
      Portion.ofWord? sparingSign (entry.1 = ['c']) entry.2
    match asked.find? fun entry => (portionOf entry).isNone with
    | some (key, word) =>
        let unit : Text := if key = ['c'] then "bytes" else "lines"
        let digits := word.dropWhile fun c => c = '-' || c = '+'
        let shown := if sparingSign = '-' then word.dropWhile (· = '-') else word
        let tooBig := !digits.isEmpty && digits.all Char.isDigit
        invocation.refuse ("invalid number of " ++ unit ++ ": " ++ curled shown ++
          if tooBig then ": Value too large for defined data type" else "") 1
    | none =>
        let portion := (asked.getLast?.bind portionOf).getD {}
        let files := orStandardInput options.operands
        let delimiter : UInt8 := if options.has "z" then 0 else 10
        let hasHeadings : Bool :=
          match options.last? ["q", "v"] with
          | some key => key = ['v']
          | none => 1 < files.length
        let heading (isFirst : Bool) (path : Text) : Outcome :=
          if hasHeadings then
            .ofText ((if isFirst then ("" : Text) else "\n") ++ "==> " ++
              (if isStandardInput path then ("standard input" : Text) else path) ++ " <==\n")
          else
            {}
        let outcome := files.foldl
          (fun (before : Outcome × Bool) path =>
            match invocation.read path with
            | .ok bytes =>
                ((before.1.append (heading before.2 path)).append
                  (.ofBytes (copy portion delimiter bytes)), false)
            | .error .isDirectory =>
                let text := "error reading " ++ quotedWord path ++ ": " ++ Errno.isDirectory.text
                ((before.1.append (heading before.2 path)).append
                  (.ofError (invocation.message text) 1), false)
            | .error errno =>
                let text := "cannot open " ++ quotedWord path ++ " for reading: " ++ errno.text
                (before.1.append (.ofError (invocation.message text) 1), before.2))
          ({}, true)
        invocation.reportRead files outcome.1

def tac (invocation : Invocation) : Effect :=
  invocation.reading "b=before r=regex s:=separator" 1 fun options =>
    let files := orStandardInput options.operands
    invocation.reportRead files <| files.foldl
      (fun (outcome : Outcome) path =>
        outcome.append <|
          match invocation.read path with
          | .ok bytes => .ofBytes (byteLines bytes).reverse.flatten
          | .error .isDirectory =>
              .ofError (invocation.message (shownName path ++ ": read error: Invalid argument")) 1
          | .error errno =>
              .ofError (invocation.message ("failed to open " ++ quotedWord path ++
                " for reading: " ++ errno.text)) 1)
      {}

/-- Turns the characters of each line around. -/
def rev (invocation : Invocation) : Effect :=
  invocation.reading "0=zero" 1 fun options =>
    let files := orStandardInput options.operands
    let turned (line : List UInt8) : List UInt8 :=
      let ending := line.drop (line.takeWhile (· ≠ 10)).length
      Text.toOctets (Text.ofOctets (line.takeWhile (· ≠ 10))).reverse ++ ending
    invocation.reportRead files <| files.foldl
      (fun (outcome : Outcome) path =>
        outcome.append <|
          match invocation.read path with
          | .ok bytes => .ofBytes ((byteLines bytes).flatMap turned)
          | .error errno =>
              .ofError (invocation.message ("cannot open " ++ path ++ ": " ++ errno.text)) 1)
      {}

end Invocation

end AsmLens.Shell
