import AsmLens.Shell.Real
import AsmLens.Shell.Utility.Basic
import AsmLens.Text.Octets

namespace AsmLens.Shell

/-- How two keys are compared, by letters: as numbers (`n`, `g`, `h`), versions (`V`) or months (`M`), or
without some of their characters (`d`, `i`) and the case of letters (`f`). -/
structure KeyOrder where
  letters : Text := []
  skipsBlanksAtStart : Bool := false
  skipsBlanksAtEnd : Bool := false
  deriving DecidableEq

namespace KeyOrder

def has (order : KeyOrder) (letter : Char) : Bool :=
  order.letters.contains letter

/-- Whether a key has no order of its own and takes that of all keys. -/
def isDefault (order : KeyOrder) : Bool :=
  order = {}

def isBlank (byte : UInt8) : Bool :=
  byte = 32 || byte = 9 || byte = 10

def digitsOf (bytes : List UInt8) : Text :=
  bytes.map fun byte => Char.ofNat byte.toNat

/-- A decimal number at the front of a key, as a numerator and a power of ten below it. -/
def decimal (bytes : List UInt8) : Int × Nat :=
  let text := digitsOf (bytes.dropWhile isBlank)
  let (isNegative, digits) : Bool × Text :=
    match text with
    | '-' :: digits => (true, digits)
    | digits => (false, digits)
  match Real.leadingDigits 10 digits with
  | some (value, places, _) => (if isNegative then -value else value, places)
  | none => (0, 0)

def compareDecimals (first second : Int × Nat) : Ordering :=
  compare (first.1 * Nat.pow 10 second.2) (second.1 * Nat.pow 10 first.2)

/-- The place of a number among those that are compared as real numbers: none come first, then those
that are no number any more. -/
def realRank (bytes : List UInt8) : Nat × Bool × Magnitude :=
  match Real.leading 64 (digitsOf bytes) with
  | none => (0, false, .zero)
  | some (value, _) =>
      match value.magnitude with
      | .notANumber => (1, false, .zero)
      | .infinite => (if value.isNegative then 2 else 4, false, .zero)
      | magnitude => (3, value.isNegative, magnitude)

def compareReals (first second : List UInt8) : Ordering :=
  let (firstRank, firstNegative, firstMagnitude) := realRank first
  let (secondRank, secondNegative, secondMagnitude) := realRank second
  (compare firstRank secondRank).then <|
    match firstMagnitude, secondMagnitude with
    | .finite a e, .finite b f =>
        let signed (isNegative : Bool) (value : Nat) : Int := if isNegative then -value else value
        compare (signed firstNegative (a * Nat.pow 2 (e - min e f).toNat))
          (signed secondNegative (b * Nat.pow 2 (f - min e f).toNat))
    | _, _ => .eq

/-- How great the unit behind a number is. A number of a greater unit is greater. -/
def unitRank (bytes : List UInt8) : Int :=
  let text := digitsOf (bytes.dropWhile isBlank)
  let isNegative := text.head? = some '-'
  let digits := if isNegative then text.tail else text
  match Real.leadingDigits 10 digits with
  | some (value, _, rest) =>
      let unit := match rest.head? with
        | some c => ("kKMGTPEZYRQ".toList.findIdx? (· = c)).map fun index =>
            if index = 0 then 1 else index
        | none => none
      if value = 0 then 0 else (if isNegative then -1 else 1) * (unit.getD 0 : Nat)
  | none => 0

def monthRank (bytes : List UInt8) : Nat :=
  let months : List Text := ["JAN", "FEB", "MAR", "APR", "MAY", "JUN", "JUL", "AUG", "SEP", "OCT",
    "NOV", "DEC"]
  let word := ((digitsOf (bytes.dropWhile isBlank)).take 3).map Char.toUpper
  match months.findIdx? (· = word) with
  | some index => index + 1
  | none => 0

/-- The place of a character in a version: a tilde comes before the end, letters before all others. -/
def versionRank (c : Char) : Nat :=
  if c = '~' then 0 else if c.isAlpha then c.toNat + 1 else c.toNat + 257

/-- Compares versions part by part; parts are made of digits or of none. As many steps are allowed. -/
def compareVersions : Nat → Text → Text → Ordering
  | 0, _, _ => .eq
  | steps + 1, first, second =>
      if first.isEmpty ∧ second.isEmpty then .eq
      else
        let wordOf (text : Text) : Text := text.takeWhile (!·.isDigit)
        let numberOf (text : Text) : Text := (text.drop (wordOf text).length).takeWhile Char.isDigit
        let restOf (text : Text) : Text :=
          text.drop ((wordOf text).length + (numberOf text).length)
        let ranks (text : Text) : List Nat := (wordOf text).map versionRank ++ [1]
        (compareLists (ranks first) (ranks second)).then <|
          (compare ((count? (numberOf first)).getD 0) ((count? (numberOf second)).getD 0)).then <|
            compareVersions steps (restOf first) (restOf second)
where
  compareLists : List Nat → List Nat → Ordering
    | [], [] => .eq
    | [], _ => .lt
    | _, [] => .gt
    | a :: first, b :: second => (compare a b).then (compareLists first second)

def compareBytes : List UInt8 → List UInt8 → Ordering
  | [], [] => .eq
  | [], _ => .lt
  | _, [] => .gt
  | a :: first, b :: second => (compare a b).then (compareBytes first second)

/-- The characters of a key that count, in the form in which they are compared. -/
def essence (order : KeyOrder) (bytes : List UInt8) : List UInt8 :=
  let isKept (byte : UInt8) : Bool :=
    let c := Char.ofNat byte.toNat
    (!order.has 'd' || byte = 32 || byte = 9 || (byte < 128 && c.isAlphanum)) &&
      (!order.has 'i' || (32 ≤ byte && byte ≤ 126))
  (bytes.filter isKept).map fun byte =>
    if order.has 'f' && 97 ≤ byte && byte ≤ 122 then byte - 32 else byte

def compareKeys (order : KeyOrder) (first second : List UInt8) : Ordering :=
  let ordering :=
    if order.has 'n' then compareDecimals (decimal first) (decimal second)
    else if order.has 'g' then compareReals first second
    else if order.has 'h' then
      (compare (unitRank first) (unitRank second)).then
        (compareDecimals (decimal first) (decimal second))
    else if order.has 'M' then compare (monthRank first) (monthRank second)
    else if order.has 'V' then
      let texts := (digitsOf (order.essence first), digitsOf (order.essence second))
      compareVersions (texts.1.length + texts.2.length + 1) texts.1 texts.2
    else compareBytes (order.essence first) (order.essence second)
  if order.has 'r' then ordering.swap else ordering

end KeyOrder

/-- A part of a line that is compared: from a character of a field to a character of a field, or to the end
of the line. -/
structure SortKey where
  startField : Nat := 1
  startChar : Nat := 1
  endField : Option (Nat × Nat) := none
  order : KeyOrder := {}

/-- Why a key cannot be read. -/
inductive KeyError where
  | badStart (word : Text)
  | badEnd (word : Text)
  | zeroField (spec : Text)
  | zeroChar (spec : Text)
  | badChar (word : Text)
  | stray (spec : Text)

def KeyError.message : KeyError → Text
  | .badStart word => "invalid number at field start: invalid count at start of " ++ curled word
  | .badEnd word => "invalid number after " ++ curled "," ++ ": invalid count at start of " ++ curled word
  | .badChar word => "invalid number after " ++ curled "." ++ ": invalid count at start of " ++ curled word
  | .zeroField spec => "field number is zero: invalid field specification " ++ curled spec
  | .zeroChar spec => "character offset is zero: invalid field specification " ++ curled spec
  | .stray spec => "stray character in field spec: invalid field specification " ++ curled spec

namespace SortKey

def isOrderLetter (c : Char) : Bool :=
  "bdfgiMhnRrV".toList.contains c

/-- A number at the front of a text, and the text after it. -/
def number? (text : Text) : Option (Nat × Text) :=
  let digits := text.takeWhile Char.isDigit
  (count? digits).map fun value => (value, text.drop digits.length)

/-- A field and a character in it, the letters behind them, and the text after these. -/
def position (spec text : Text) (isStart : Bool) :
    Except KeyError ((Nat × Nat) × Text × Text) :=
  match number? text with
  | none => .error (if isStart then .badStart text else .badEnd text)
  | some (0, _) => .error (.zeroField spec)
  | some (field, rest) => do
      let (char, rest) ←
        match rest with
        | '.' :: digits =>
            match number? digits with
            | none => .error (.badChar digits)
            | some (char, rest) =>
                if char = 0 ∧ isStart then .error (.zeroChar spec) else .ok (char, rest)
        | rest => .ok (if isStart then 1 else 0, rest)
      let letters := rest.takeWhile isOrderLetter
      .ok ((field, char), letters, rest.drop letters.length)

def ofText (spec : Text) : Except KeyError SortKey := do
  let ((field, char), letters, rest) ← position spec spec true
  let orderOf (all : Text) (endLetters : Text) : KeyOrder :=
    ⟨all.filter (· ≠ 'b'), letters.contains 'b', endLetters.contains 'b'⟩
  match rest with
  | [] => .ok ⟨field, char, none, orderOf letters []⟩
  | ',' :: rest =>
      let (last, endLetters, rest) ← position spec rest false
      if rest.isEmpty then .ok ⟨field, char, some last, orderOf (letters ++ endLetters) endLetters⟩
      else .error (.stray spec)
  | _ => .error (.stray spec)

/-- The bytes of a line from a field on. -/
def dropFields (separator : Option UInt8) : Nat → List UInt8 → List UInt8
  | 0, bytes => bytes
  | fields + 1, bytes =>
      match separator with
      | some separator =>
          let rest := bytes.dropWhile (· ≠ separator)
          dropFields (some separator) fields rest.tail
      | none =>
          dropFields none fields
            ((bytes.dropWhile KeyOrder.isBlank).dropWhile (!KeyOrder.isBlank ·))

/-- How many bytes of a line there are up to the end of a field. -/
def endOfField (separator : Option UInt8) (field : Nat) (bytes : List UInt8) : Nat :=
  let before := dropFields separator (field - 1) bytes
  let rest :=
    match separator with
    | some separator => before.dropWhile (· ≠ separator)
    | none => (before.dropWhile KeyOrder.isBlank).dropWhile (!KeyOrder.isBlank ·)
  bytes.length - rest.length

def slice (separator : Option UInt8) (key : SortKey) (bytes : List UInt8) : List UInt8 :=
  let field := dropFields separator (key.startField - 1) bytes
  let field := if key.order.skipsBlanksAtStart then field.dropWhile KeyOrder.isBlank else field
  let start := bytes.length - (field.drop (key.startChar - 1)).length
  let finish :=
    match key.endField with
    | none => bytes.length
    | some (field, 0) => endOfField separator field bytes
    | some (field, char) =>
        let rest := dropFields separator (field - 1) bytes
        let rest := if key.order.skipsBlanksAtEnd then rest.dropWhile KeyOrder.isBlank else rest
        bytes.length - (rest.drop char).length
  (bytes.take finish).drop start

end SortKey

/-- How lines are sorted. -/
structure Sorting where
  keys : List SortKey
  separator : Option UInt8
  isReversed : Bool
  isUnique : Bool
  isStable : Bool

namespace Sorting

/-- How two lines compare by their keys alone. -/
def compareByKeys (sorting : Sorting) (first second : List UInt8) : Ordering :=
  sorting.keys.foldl
    (fun ordering key =>
      ordering.then
        (key.order.compareKeys (key.slice sorting.separator first)
          (key.slice sorting.separator second)))
    .eq

def compareWhole (sorting : Sorting) (first second : List UInt8) : Ordering :=
  let ordering := KeyOrder.compareBytes first second
  if sorting.isReversed then ordering.swap else ordering

/-- How two lines compare: by all keys, and then as a whole. -/
def compareLines (sorting : Sorting) (first second : List UInt8) : Ordering :=
  if sorting.keys.isEmpty then sorting.compareWhole first second
  else
    (sorting.compareByKeys first second).then <|
      if sorting.isUnique || sorting.isStable then .eq else sorting.compareWhole first second

def unique (sorting : Sorting) : List (List UInt8) → List (List UInt8)
  | [] => []
  | line :: rest =>
      let others := unique sorting rest
      match others with
      | next :: others =>
          if sorting.compareLines line next = .eq then line :: others else line :: next :: others
      | [] => [line]

def sorted (sorting : Sorting) (lines : List (List UInt8)) : List (List UInt8) :=
  let all := lines.mergeSort fun a b => sorting.compareLines a b ≠ .gt
  if sorting.isUnique then sorting.unique all else all

/-- The number of the first line that is out of order, and the line. -/
def disorder? (sorting : Sorting) : Nat → List (List UInt8) → Option (Nat × List UInt8)
  | number, first :: second :: rest =>
      let ordering := sorting.compareLines first second
      if ordering = .gt ∨ (sorting.isUnique ∧ ordering = .eq) then some (number + 1, second)
      else disorder? sorting (number + 1) (second :: rest)
  | _, _ => none

/-- The keys that options ask for. Those without an order of their own take that of all. -/
def keysOf (options : Options) : Except KeyError (List SortKey) := do
  let names : List (Text × Text) := [("numeric", "n"), ("general-numeric", "g"),
    ("human-numeric", "h"), ("month", "M"), ("version", "V")]
  let named := (options.values "sort").flatMap fun name =>
    ((names.find? fun entry => entry.1 = name).map Prod.snd).getD []
  let letters := named ++ "dfgiMhnrV".toList.filter fun c => options.has [c]
  let global : KeyOrder := ⟨letters, options.has "b", options.has "b"⟩
  let keys ← (options.values "k").mapM SortKey.ofText
  let keys := keys.map fun key => if key.order.isDefault then { key with order := global } else key
  let isPlain := global.letters.all (· = 'r') && !options.has "b"
  .ok (if keys.isEmpty ∧ !isPlain then [{ order := global }] else keys)

end Sorting

namespace Invocation

def sort (invocation : Invocation) : Effect :=
  invocation.reading ("b=ignore-leading-blanks c C d=dictionary-order f=ignore-case " ++
    "g=general-numeric-sort h=human-numeric-sort i=ignore-nonprinting k:=key m=merge M=month-sort " ++
    "n=numeric-sort o:=output r=reverse R=random-sort s=stable S:=buffer-size t:=field-separator " ++
    "T:=temporary-directory u=unique V=version-sort z=zero-terminated :=sort ::=check " ++
    ":=parallel =debug") 2 fun options =>
    match Sorting.keysOf options, options.value? "t" with
    | .error error, _ => invocation.refuse error.message 2
    | .ok _, some [] => invocation.refuse "empty tab" 2
    | .ok keys, separator? =>
        let separator? : Option Text := separator?.map fun text =>
          if text = ['\\', '0'] then ['\x00'] else text
        if separator?.any fun text => 1 < Text.byteLength text then
          invocation.refuse ("multi-character tab " ++ curled (separator?.getD [])) 2
        else
          let sorting : Sorting := {
            keys
            separator := separator?.bind fun text => (Text.encode text).head?
            isReversed := options.has "r"
            isUnique := options.has "u"
            isStable := options.has "s" }
          let files := orStandardInput options.operands
          let ending : UInt8 := if options.has "z" then 0 else 10
          let linesOf (bytes : List UInt8) : List (List UInt8) :=
            let lines := bytes.splitOn ending
            if lines.getLast? = some [] then lines.dropLast else lines
          let quiet := options.has "C" || options.value? "check" = some "quiet" ||
            options.value? "check" = some "silent"
          let checks := quiet || options.has "c" || options.has "check"
          let failed := files.findSome? fun path =>
            match invocation.read path with
            | .ok _ => none
            | .error .isDirectory => some ("read failed: " ++ shownName path ++ ": Is a directory")
            | .error errno => some ("cannot read: " ++ shownName path ++ ": " ++ errno.text)
          if checks ∧ 1 < files.length then
            invocation.refuse ("extra operand " ++ quotedWord (files.getD 1 []) ++
              " not allowed with -c") 2
          else
            match failed with
            | some text => invocation.refuse text 2
            | none =>
                let lines := files.flatMap fun path =>
                  linesOf ((invocation.read path).toOption.getD [])
                if checks then
                  match sorting.disorder? 1 lines with
                  | none => invocation.reportRead files {}
                  | some (number, line) =>
                      let text := files.headD [] ++ ":" ++ Text.ofNat number ++ ": disorder: " ++
                        Text.ofOctets line
                      invocation.reportRead files
                        (if quiet then .ofStatus 1 else .ofError (invocation.message text) 1)
                else
                  let bytes := (sorting.sorted lines).flatMap (· ++ [ending])
                  match options.value? "o" with
                  | none => invocation.reportRead files (.ofBytes bytes)
                  | some path =>
                      match invocation.tree.writeBytes path bytes with
                      | .ok tree => { invocation.reportRead files {} with tree }
                      | .error errno =>
                          invocation.refuse ("open failed: " ++ shownName path ++ ": " ++ errno.text) 2

end Invocation

/-- How neighbouring lines are compared and told. -/
structure Neighbours where
  skippedFields : Nat
  skippedChars : Nat
  checkedChars : Option Nat
  ignoresCase : Bool

namespace Neighbours

def essence (neighbours : Neighbours) (line : List UInt8) : List UInt8 :=
  let isBlank (byte : UInt8) : Bool := byte = 32 || byte = 9
  let rest := (List.range neighbours.skippedFields).foldl
    (fun rest _ => (rest.dropWhile isBlank).dropWhile (!isBlank ·)) line
  let rest := rest.drop neighbours.skippedChars
  let checked := rest.take (neighbours.checkedChars.getD rest.length)
  if neighbours.ignoresCase then
    checked.map fun byte => if 97 ≤ byte && byte ≤ 122 then byte - 32 else byte
  else checked

def groups (neighbours : Neighbours) (lines : List (List UInt8)) : List (List (List UInt8)) :=
  lines.foldr
    (fun line groups =>
      match groups with
      | (next :: others) :: rest =>
          if neighbours.essence line = neighbours.essence next then (line :: next :: others) :: rest
          else [line] :: (next :: others) :: rest
      | groups => [line] :: groups)
    []

end Neighbours

namespace Invocation

def uniq (invocation : Invocation) : Effect :=
  invocation.reading ("c=count d=repeated D u=unique i=ignore-case f:=skip-fields s:=skip-chars " ++
    "w:=check-chars z=zero-terminated ::=group ::=all-repeated") 1 fun options =>
    let purposes : List (Text × Text) := [("f", "fields to skip"), ("s", "bytes to skip"),
      ("w", "bytes to compare")]
    let wrong := purposes.findSome? fun (key, purpose) =>
      ((options.values key).find? fun word => (count? word).isNone).map fun word =>
        word ++ ": invalid number of " ++ purpose
    let number (key : Text) : Nat := ((options.value? key).bind count?).getD 0
    match wrong, options.operands with
    | some text, _ => invocation.refuse text 1
    | none, _ :: _ :: extra :: _ => invocation.misuse ("extra operand " ++ curled extra) 1
    | none, operands =>
        let path := operands.headD ['-']
        match invocation.read path with
        | .error .isDirectory =>
            invocation.refuse ("error reading " ++ quotedWord path ++ ": Is a directory") 1
        | .error errno => invocation.report (invocation.complaint path errno)
        | .ok bytes =>
            let neighbours : Neighbours := {
              skippedFields := number "f"
              skippedChars := number "s"
              checkedChars := (options.value? "w").bind count?
              ignoresCase := options.has "i" }
            let ending : UInt8 := if options.has "z" then 0 else 10
            let lines := bytes.splitOn ending
            let lines := if lines.getLast? = some [] then lines.dropLast else lines
            let groups := neighbours.groups lines
            let showsAll := options.has "D" || options.has "all-repeated"
            let isShown (group : List (List UInt8)) : Bool :=
              let isRepeated := 1 < group.length
              (!(options.has "d" || showsAll) || isRepeated) && (!options.has "u" || !isRepeated)
            let write (group : List (List UInt8)) : List UInt8 :=
              if showsAll then group.flatMap (· ++ [ending])
              else
                (if options.has "c" then
                  Text.encode (rightAligned 7 (Text.ofNat group.length) ++ " ")
                else []) ++ group.headD [] ++ [ending]
            let shown := groups.filter isShown
            let written :=
              if options.has "group" then
                ((groups.map fun group => group.flatMap (· ++ [ending])).intersperse [ending]).flatten
              else shown.flatMap write
            match operands with
            | [_, target] =>
                match invocation.tree.writeBytes target written with
                | .ok tree => { invocation.reportRead [path] {} with tree }
                | .error errno => invocation.report (invocation.complaint target errno)
            | _ => invocation.reportRead [path] (.ofBytes written)

/-- The lines of two sorted files in three columns: those of the first alone, of the second alone, and of
both. As many steps are allowed. -/
def commLines : Nat → List (List UInt8) → List (List UInt8) → List (Nat × List UInt8)
  | 0, _, _ => []
  | _, [], [] => []
  | steps + 1, line :: first, [] => (1, line) :: commLines steps first []
  | steps + 1, [], line :: second => (2, line) :: commLines steps [] second
  | steps + 1, a :: first, b :: second =>
      match KeyOrder.compareBytes a b with
      | .lt => (1, a) :: commLines steps first (b :: second)
      | .gt => (2, b) :: commLines steps (a :: first) second
      | .eq => (3, a) :: commLines steps first second

def comm (invocation : Invocation) : Effect :=
  invocation.reading "1 2 3 z=zero-terminated =check-order =nocheck-order :=output-delimiter =total"
    1 fun options =>
    match options.operands with
    | [] => invocation.misuse "missing operand" 1
    | [path] => invocation.misuse ("missing operand after " ++ curled path) 1
    | _ :: _ :: extra :: _ => invocation.misuse ("extra operand " ++ curled extra) 1
    | [firstPath, secondPath] =>
        match invocation.read firstPath, invocation.read secondPath with
        | .error errno, _ => invocation.report (invocation.complaint firstPath errno)
        | _, .error errno => invocation.report (invocation.complaint secondPath errno)
        | .ok firstBytes, .ok secondBytes =>
            let first := bareLines firstBytes
            let second := bareLines secondBytes
            let delimiter := ((options.value? "output-delimiter").getD "\t").encode
            let isShown (column : Nat) : Bool := !options.has (Text.ofNat column)
            let indent (column : Nat) : List UInt8 :=
              ((List.range (column - 1)).filter fun index => isShown (index + 1)).flatMap fun _ =>
                delimiter
            let rows := commLines (first.length + second.length + 1) first second
            let sorting : Sorting := ⟨[], none, false, false, false⟩
            let unsorted := [(1, first), (2, second)].filter fun (_, lines) =>
              (sorting.disorder? 1 lines).isSome
            let complaints := unsorted.map fun (number, _) =>
              Outcome.ofError (invocation.message ("file " ++ Text.ofNat number ++
                " is not in sorted order")) 1
            let written := (rows.filter fun row => isShown row.1).flatMap fun row =>
              indent row.1 ++ row.2 ++ [10]
            let last : Outcome := if unsorted.isEmpty ∨ options.has "nocheck-order" then {}
              else .ofError (invocation.message "input is not in sorted order") 1
            let complaints := if options.has "nocheck-order" then [] else complaints
            invocation.reportRead [firstPath, secondPath]
              (((complaints.foldl Outcome.append {}).append (.ofBytes written)).append last)

end Invocation

end AsmLens.Shell
