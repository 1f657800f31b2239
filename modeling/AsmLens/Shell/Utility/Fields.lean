import AsmLens.Shell.Utility.Basic
import AsmLens.Text.Octets

namespace AsmLens.Shell

/-- Numbers from a first one up to a last one, if there is a last one. -/
structure NumberRange where
  first : Nat
  last : Option Nat

/-- Why a list of ranges cannot be read. -/
inductive RangeError where
  | fromZero
  | invalid (word : Text)
  | decreasing
  | noEndpoint (word : Text)

namespace NumberRange

def has (range : NumberRange) (number : Nat) : Bool :=
  range.first ≤ number && range.last.all (number ≤ ·)

def ofText (text : Text) : Except RangeError NumberRange :=
  let low := text.takeWhile Char.isDigit
  match text.drop low.length with
  | [] =>
      match count? low with
      | none | some 0 => .error .fromZero
      | some number => .ok ⟨number, some number⟩
  | '-' :: high =>
      let first := if low.isEmpty then some 1 else count? low
      if low.isEmpty ∧ high.isEmpty then .error (.noEndpoint text)
      else if !high.all Char.isDigit then .error (.invalid high)
      else
        match first, if high.isEmpty then none else count? high with
        | some 0, _ | none, _ => .error .fromZero
        | some first, none => .ok ⟨first, none⟩
        | some first, some last =>
            if last < first then .error .decreasing else .ok ⟨first, some last⟩
  | _ => .error (.invalid text)

def list (text : Text) : Except RangeError (List NumberRange) :=
  (Text.cut ',' (text.map fun c => if c = ' ' ∨ c = '\t' then ',' else c)).mapM ofText

end NumberRange

namespace Invocation

/-- The parts of a line that are selected, each with whether it follows the one before it at once. -/
def selected {α : Type} (ranges : List NumberRange) (isComplement : Bool) (parts : List α) :
    List (α × Bool) :=
  let isSelected (number : Nat) : Bool :=
    (ranges.any fun range => range.has number) != isComplement
  let startsRange (number : Nat) : Bool :=
    !isSelected (number - 1) || (ranges.any fun range => range.first = number) &&
      !(ranges.any fun range => range.first < number && range.has number && range.has (number - 1))
  ((parts.zipIdx 1).filter fun part => isSelected part.2).map fun part =>
    (part.1, !startsRange part.2)

def cut (invocation : Invocation) : Effect :=
  invocation.reading ("b:=bytes c:=characters d:=delimiter f:=fields n s=only-delimited " ++
    "z=zero-terminated =complement :=output-delimiter") 1 fun options =>
    let lists := options.found.filter fun entry =>
      ([['b'], ['c'], ['f']] : List Text).contains entry.1
    let isComplement := options.has "complement"
    let delimiter := (options.value? "d").getD "\t"
    let ending : UInt8 := if options.has "z" then 0 else 10
    match lists with
    | [] =>
        invocation.misuse "you must specify a list of bytes, characters, or fields" 1
    | _ :: _ :: _ => invocation.misuse "only one list may be specified" 1
    | [(key, list)] =>
        let isFields := key = ['f']
        if options.has "d" ∧ !isFields then
          invocation.misuse
            "an input delimiter may be specified only when operating on fields" 1
        else if options.has "s" ∧ !isFields then
          invocation.misuse
            "suppressing non-delimited lines makes sense\n\tonly when operating on fields" 1
        else if 1 < delimiter.byteLength then
          invocation.misuse "the delimiter must be a single character" 1
        else
          match NumberRange.list list with
          | .error .fromZero =>
              invocation.misuse (if isFields then "fields are numbered from 1"
                else "byte/character positions are numbered from 1") 1
          | .error (.invalid word) =>
              invocation.misuse ((if isFields then ("invalid field value " : Text)
                else "invalid byte or character position ") ++ curled word) 1
          | .error .decreasing => invocation.misuse "invalid decreasing range" 1
          | .error (.noEndpoint word) =>
              invocation.misuse ("invalid range with no endpoint: " ++ word) 1
          | .ok ranges =>
              let byte : UInt8 := (delimiter.encode.head?).getD 0
              let between := ((options.value? "output-delimiter").map Text.encode).getD
                (if isFields then [byte] else [])
              let bytesOf (line : List UInt8) : List UInt8 :=
                (selected ranges isComplement line).zipIdx.flatMap fun ((byte, follows), index) =>
                  (if follows || index = 0 then [] else between) ++ [byte]
              let fieldsOf (line : List UInt8) : Option (List UInt8) :=
                let fields := line.splitOn byte
                if fields.length < 2 then if options.has "s" then none else some line
                else
                  some (((selected ranges isComplement fields).map Prod.fst).intersperse between).flatten
              let change (bytes : List UInt8) : List UInt8 :=
                let lines := bytes.splitOn ending
                let lines := if lines.getLast? = some [] then lines.dropLast else lines
                lines.flatMap fun line =>
                  if isFields then ((fieldsOf line).map (· ++ [ending])).getD []
                  else bytesOf line ++ [ending]
              invocation.filter (orStandardInput options.operands) change

/-- The bytes of a list of delimiters; some are written by escapes, and one of them stands for none. -/
def delimiters : Text → List (List UInt8)
  | '\\' :: c :: rest =>
      (match c with
        | 'n' => [10]
        | 't' => [9]
        | '0' => []
        | c => Text.encodeChar c) :: delimiters rest
  | c :: rest => Text.encodeChar c :: delimiters rest
  | [] => []

/-- Lines next to each other, or the lines of each file in one. A dash takes the lines of the input in
turn with all other dashes. -/
def paste (invocation : Invocation) : Effect :=
  invocation.reading "d:=delimiters s=serial z=zero-terminated" 1 fun options =>
    let files := orStandardInput options.operands
    let marks := delimiters ((options.value? "d").getD "\t")
    let marks := if marks.isEmpty then [[]] else marks
    let mark (index : Nat) : List UInt8 := marks.getD (index % marks.length) []
    let isDash (path : Text) : Bool := isStandardInput path
    let dashes := files.countP isDash
    let inputLines := bareLines invocation.input
    let linesOf (index : Nat) (path : Text) : Except Errno (List (List UInt8)) :=
      if isDash path ∧ !options.has "s" then
        let turn := (files.take index).countP isDash
        .ok ((inputLines.zipIdx.filter fun line => line.2 % dashes = turn).map Prod.fst)
      else
        (invocation.read path).map bareLines
    let columns : List (Text × Except Errno (List (List UInt8))) :=
      files.zipIdx.map fun (path, index) => (path, linesOf index path)
    let joined (lines : List (List UInt8)) : List UInt8 :=
      (lines.zipIdx.flatMap fun (line, index) =>
        (if index = 0 then [] else mark (index - 1)) ++ line) ++ [10]
    if options.has "s" then
      invocation.reportRead files <| columns.foldl
        (fun (outcome : Outcome) (path, lines) =>
          outcome.append <|
            match lines with
            | .ok lines => .ofBytes (joined lines)
            | .error errno => invocation.complaint path errno)
        {}
    else
      let failed := columns.findSome? fun (path, lines) =>
        match lines with
        | .ok _ => none
        | .error errno => some (invocation.complaint path errno)
      match failed with
      | some outcome => invocation.report outcome
      | none =>
          let columns := columns.map fun column => column.2.toOption.getD []
          let height := ((columns.map List.length).max?).getD 0
          let rows := (List.range height).map fun row => columns.map fun lines => lines.getD row []
          invocation.reportRead files (.ofBytes (rows.flatMap joined))

end Invocation

/-- Where a field of a joined line comes from: the common field, or some field of one of the files. -/
inductive JoinedField where
  | common
  | field (isSecond : Bool) (number : Nat)

/-- How `join` reads and writes lines. -/
structure Joining where
  separator : Option UInt8
  ignoresCase : Bool
  keys : Nat × Nat
  filler : List UInt8
  fields : Option (List JoinedField)

namespace Joining

def fieldsOf (joining : Joining) (line : List UInt8) : List (List UInt8) :=
  match joining.separator with
  | some byte => line.splitOn byte
  | none => (line.splitOnP fun byte => byte = 32 || byte = 9).filter (· ≠ [])

def key (joining : Joining) (isSecond : Bool) (fields : List (List UInt8)) : List UInt8 :=
  fields.getD ((if isSecond then joining.keys.2 else joining.keys.1) - 1) []

/-- The key as it is compared. -/
def plainKey (joining : Joining) (isSecond : Bool) (fields : List (List UInt8)) : List UInt8 :=
  let key := joining.key isSecond fields
  if joining.ignoresCase then
    key.map fun byte => if 65 ≤ byte && byte ≤ 90 then byte + 32 else byte
  else key

/-- The line for a pair of lines, one of which may be missing. -/
def write (joining : Joining) (first second : Option (List (List UInt8))) : List UInt8 :=
  let separator := joining.separator.getD 32
  let common := match first, second with
    | some fields, _ => joining.key false fields
    | none, some fields => joining.key true fields
    | none, none => []
  let filled (field : List UInt8) : List UInt8 := if field.isEmpty then joining.filler else field
  let othersOf (isSecond : Bool) (fields : Option (List (List UInt8))) : List (List UInt8) :=
    (fields.getD []).eraseIdx ((if isSecond then joining.keys.2 else joining.keys.1) - 1)
  let parts :=
    match joining.fields with
    | none => common :: othersOf false first ++ othersOf true second
    | some fields => fields.map fun (field : JoinedField) =>
        match field with
        | .common => filled common
        | .field isSecond number =>
            filled (((if isSecond then second else first).getD []).getD (number - 1) [])
  (parts.intersperse [separator]).flatten ++ [10]

def fieldOf? (word : Text) : Option JoinedField :=
  match word with
  | ['0'] => some .common
  | '1' :: '.' :: digits => (count? digits).map (.field false)
  | '2' :: '.' :: digits => (count? digits).map (.field true)
  | _ => none

end Joining

/-- The pairs of lines of two sorted files with the same key, and the lines without a partner. -/
def Invocation.join (invocation : Invocation) : Effect :=
  invocation.reading ("a: v: e: o: t: 1: 2: j: i=ignore-case z=zero-terminated =check-order " ++
    "=nocheck-order =header") 1 fun options =>
    let number (key : Text) : Nat :=
      (((options.value? key).or (options.value? "j")).bind count?).getD 1
    let words := (options.values "o").flatMap fun text =>
      (Text.cut ',' (text.map fun c => if c = ' ' then ',' else c)).filter (· ≠ [])
    let joining : Joining := {
      separator := (options.value? "t").bind fun text => text.encode.head?
      ignoresCase := options.has "i"
      keys := (number "1", number "2")
      filler := ((options.value? "e").map Text.encode).getD []
      fields := if words.isEmpty then none else some (words.filterMap Joining.fieldOf?) }
    match options.operands with
    | [] => invocation.misuse "missing operand" 1
    | [path] => invocation.misuse ("missing operand after " ++ curled path) 1
    | _ :: _ :: extra :: _ => invocation.misuse ("extra operand " ++ curled extra) 1
    | [firstPath, secondPath] =>
        match invocation.read firstPath, invocation.read secondPath with
        | .error errno, _ => invocation.report (invocation.complaint firstPath errno)
        | _, .error errno => invocation.report (invocation.complaint secondPath errno)
        | .ok firstBytes, .ok secondBytes =>
            let first := (bareLines firstBytes).map joining.fieldsOf
            let second := (bareLines secondBytes).map joining.fieldsOf
            let asks (file : Text) : Bool :=
              (options.values "a").contains file || (options.values "v").contains file
            let partners (isSecond : Bool) (fields : List (List UInt8)) :
                List (List (List UInt8)) :=
              (if isSecond then first else second).filter fun other =>
                joining.plainKey (!isSecond) other = joining.plainKey isSecond fields
            let pairs := first.flatMap fun fields =>
              let found := partners false fields
              let key := joining.plainKey false fields
              if found.isEmpty then
                if asks "1" then [(key, joining.write (some fields) none)] else []
              else if options.has "v" then []
              else found.map fun other => (key, joining.write (some fields) (some other))
            let alone := if !asks "2" then [] else
              (second.filter fun fields => (partners true fields).isEmpty).map fun fields =>
                (joining.plainKey true fields, joining.write none (some fields))
            let merged := pairs.merge alone fun a b => !(List.lex b.1 a.1)
            invocation.reportRead [firstPath, secondPath]
              (.ofBytes (merged.flatMap Prod.snd))

end AsmLens.Shell
