import AsmLens.Shell.Regex.Match
import AsmLens.Shell.Regex.Reader
import AsmLens.Shell.Utility.Basic
import AsmLens.Text.Octets

namespace AsmLens.Shell

/-- How `nl` numbers lines. -/
structure Numbering where
  isNumbered : Text → Text → Bool
  first : Int
  step : Int
  width : Nat
  separator : Text
  format : Text
  joins : Nat
  restarts : Bool

namespace Numbering

/-- Whether lines of a section are numbered, by the style that is asked for: all, those that are not
empty, none, or those with a match. -/
def style? (style : Text) : Option (Text → Bool) :=
  match style with
  | ['a'] => some fun _ => true
  | ['t'] => some (!·.isEmpty)
  | ['n'] => some fun _ => false
  | 'p' :: pattern =>
      match Regex.read .basic pattern with
      | .ok regex => some (regex.isIn {})
      | .error _ => none
  | _ => none

def shown (numbering : Numbering) (number : Int) : Text :=
  let digits := Text.ofInt number
  if numbering.format = "ln" then
    digits ++ List.replicate (numbering.width - digits.length) ' '
  else if numbering.format = "rz" then
    if number < 0 then
      '-' :: List.replicate (numbering.width - digits.length) '0' ++ digits.tail
    else
      List.replicate (numbering.width - digits.length) '0' ++ digits
  else
    rightAligned numbering.width digits

/-- Writes lines with their numbers. A line of delimiters starts a section of its own. -/
def write (numbering : Numbering) (delimiter : Text) (bytes : List UInt8) : List UInt8 :=
  let blank : Text := List.replicate (numbering.width + numbering.separator.length) ' '
  let (text, _) := (bareLines bytes).foldl
    (fun (before : List (List UInt8) × Text × Int × Nat) line =>
      let (written, section_, number, empty) := before
      let text := Text.ofOctets line
      let restart := if numbering.restarts then numbering.first else number
      if text = delimiter ++ delimiter ++ delimiter then
        ([10] :: written, "h", restart, 0)
      else if text = delimiter ++ delimiter then ([10] :: written, "b", restart, 0)
      else if text = delimiter then ([10] :: written, "f", restart, 0)
      else
        let empty := if text.isEmpty then empty + 1 else 0
        let isJoined := text.isEmpty && 1 < numbering.joins && empty ≠ numbering.joins
        if numbering.isNumbered section_ text && !isJoined then
          ((Text.encode (numbering.shown number ++ numbering.separator) ++ line ++ [10]) :: written,
            section_, number + numbering.step, 0)
        else
          ((blank.encode ++ line ++ [10]) :: written, section_, number, empty))
    ([], "b", numbering.first, 0)
  text.reverse.flatten

end Numbering

namespace Invocation

def nl (invocation : Invocation) : Effect :=
  invocation.reading ("b:=body-numbering d:=section-delimiter f:=footer-numbering " ++
    "h:=header-numbering i:=line-increment l:=join-blank-lines n:=number-format p=no-renumber " ++
    "s:=number-separator v:=starting-line-number w:=number-width") 1 fun options =>
    let styleOf (key default : Text) : Text := (options.value? key).getD default
    let style (key default : Text) : Option (Text → Bool) := Numbering.style? (styleOf key default)
    let number (key : Text) (default : Int) : Int :=
      ((options.value? key).bind Text.readInt?).getD default
    let delimiter : Text :=
      match options.value? "d" with
      | none => "\\:"
      | some [c] => [c, ':']
      | some text => text
    match style "b" "t", style "h" "n", style "f" "n" with
    | some body, some header, some footer =>
        let numbering : Numbering := {
          isNumbered := fun part text =>
            if part = "h" then header text else if part = "f" then footer text else body text
          first := number "v" 1
          step := number "i" 1
          width := (number "w" 6).toNat
          separator := styleOf "s" "\t"
          format := styleOf "n" "rn"
          joins := (number "l" 1).toNat
          restarts := !options.has "p" }
        let files := orStandardInput options.operands
        let (bytes, outcome) := invocation.readAll files
        invocation.reportRead files
          (outcome.append (.ofBytes (numbering.write delimiter bytes)))
    | none, _, _ =>
        invocation.misuse ("invalid body numbering style: " ++ curled (styleOf "b" "t")) 1
    | _, none, _ =>
        invocation.misuse ("invalid header numbering style: " ++ curled (styleOf "h" "n")) 1
    | _, _, none =>
        invocation.misuse ("invalid footer numbering style: " ++ curled (styleOf "f" "n")) 1

end Invocation

/-- Breaks a line into pieces of at most so many columns: the column, the piece that has begun, and how
much of it ends with a blank. -/
structure Folding where
  width : Nat
  countsBytes : Bool
  breaksAtBlanks : Bool

namespace Folding

def columnAfter (folding : Folding) (column : Nat) (byte : UInt8) : Nat :=
  if folding.countsBytes then column + 1
  else if byte = 8 then column - 1
  else if byte = 13 then 0
  else if byte = 9 then column + 8 - column % 8
  else column + 1

/-- The pieces of a line with line feeds between them. The begun piece is kept the last byte first. As many
steps are allowed. -/
def pieces (folding : Folding) : Nat → List UInt8 → Nat → List UInt8 → List UInt8
  | 0, piece, _, _ => piece.reverse
  | _, piece, _, [] => piece.reverse
  | steps + 1, piece, column, byte :: rest =>
      if byte = 10 then
        piece.reverse ++ 10 :: pieces folding steps [] 0 rest
      else
        let next := folding.columnAfter column byte
        if folding.width < next then
          let isBlank (byte : UInt8) : Bool := byte = 32 || byte = 9
          let tail := piece.takeWhile (!isBlank ·)
          let head := piece.drop tail.length
          if folding.breaksAtBlanks && !head.isEmpty then
            head.reverse ++ 10 ::
              pieces folding steps tail (tail.reverse.foldl folding.columnAfter 0) (byte :: rest)
          else if piece.isEmpty then
            pieces folding steps [byte] next rest
          else
            piece.reverse ++ 10 :: pieces folding steps [] 0 (byte :: rest)
        else
          pieces folding steps (byte :: piece) next rest

end Folding

namespace Invocation

def fold (invocation : Invocation) : Effect :=
  let arguments := invocation.arguments.flatMap fun word =>
    match word with
    | '-' :: digits => if (count? digits).isSome then [['-', 'w'], digits] else [word]
    | word => [word]
  Invocation.reading { invocation with arguments } "b=bytes s=spaces w:=width" 1 fun options =>
    let word := (options.value? "w").getD "80"
    match (count? word).filter (0 < ·) with
    | none => invocation.refuse ("invalid number of columns: " ++ curled word) 1
    | some width =>
        let folding : Folding := ⟨width, options.has "b", options.has "s"⟩
        invocation.filter (orStandardInput options.operands) fun bytes =>
          folding.pieces (3 * bytes.length + 3) [] 0 bytes

/-- The next column after some column at which a tab ends. The last distance between stops goes on if there is
only one; after the last of more stops, each column is one. -/
def nextStop (stops : List Nat) (column : Nat) : Nat :=
  match stops with
  | [width] => column + width - column % width
  | stops => (stops.find? (column < ·)).getD (column + 1)

def stops? (word : Text) : Option (List Nat) :=
  ((Text.cut ',' (word.map fun c => if c = ' ' then ',' else c)).filter (· ≠ [])).mapM fun word =>
    (count? word).filter (0 < ·)

def tabStops (options : Options) : List Nat :=
  (((options.value? "t").bind stops?).filter (· ≠ [])).getD [8]

/-- Writes blanks in the place of tabs. -/
def expand (invocation : Invocation) : Effect :=
  invocation.reading "i=initial t:=tabs" 1 fun options =>
    let stops := tabStops options
    let step (state : List UInt8 × Nat × Bool) (byte : UInt8) : List UInt8 × Nat × Bool :=
      let (written, column, isStart) := state
      if byte = 10 then (10 :: written, 0, true)
      else if byte = 9 ∧ (isStart ∨ !options.has "i") then
        let next := nextStop stops column
        (List.replicate (next - column) 32 ++ written, next, isStart)
      else
        (byte :: written, if byte = 8 then column - 1 else column + 1,
          isStart && (byte = 32 || byte = 9))
    invocation.filter (orStandardInput options.operands) fun bytes =>
      (bytes.foldl step ([], 0, true)).1.reverse

/-- Writes tabs in the place of blanks: of those at the start of a line, or of all that reach a stop. -/
def unexpand (invocation : Invocation) : Effect :=
  invocation.reading "a=all =first-only t:=tabs" 1 fun options =>
    let stops := tabStops options
    let isWhole := (options.has "a" || options.has "t") && !options.has "first-only"
    let flush (start column : Nat) : List UInt8 :=
      (List.range (column - start)).foldl
        (fun (state : List UInt8 × Nat) _ =>
          let next := nextStop stops state.2
          if state.2 = column then state
          else if next ≤ column ∧ (1 < next - state.2 ∨ (state.1.head? = some 9)) then
            (9 :: state.1, next)
          else if next ≤ column then
            (if state.2 + 1 = next ∧ state.2 ≠ start then 9 :: state.1 else 32 :: state.1, next)
          else (32 :: state.1, state.2 + 1))
        ([], start) |>.1
    let step (state : List UInt8 × Nat × Option Nat × Bool) (byte : UInt8) :
        List UInt8 × Nat × Option Nat × Bool :=
      let (written, column, blanks, isStart) := state
      let changes := isStart || isWhole
      if (byte = 32 ∨ byte = 9) ∧ changes then
        (written, if byte = 9 then nextStop stops column else column + 1,
          some (blanks.getD column), isStart)
      else
        let written := (blanks.map fun start => flush start column).getD [] ++ written
        if byte = 10 then (10 :: written, 0, none, true)
        else (byte :: written, if byte = 8 then column - 1 else column + 1, none, false)
    invocation.filter (orStandardInput options.operands) fun bytes =>
      let (written, column, blanks, _) := bytes.foldl step ([], 0, none, true)
      ((blanks.map fun start => flush start column).getD [] ++ written).reverse

end Invocation

end AsmLens.Shell
