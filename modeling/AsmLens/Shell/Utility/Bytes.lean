import AsmLens.Shell.Escape
import AsmLens.Shell.Real
import AsmLens.Shell.Regex.Basic
import AsmLens.Shell.Utility.Copying

namespace AsmLens.Shell

/-- A part of a set of bytes as it is written: a byte, the bytes between two, a class, or a byte so many times
or as often as needed. -/
inductive ByteItem where
  | single (byte : UInt8)
  | range (low high : UInt8)
  | named (name : Text)
  | repeated (byte : UInt8) (count : Option Nat)
  deriving DecidableEq

/-- Why a set of bytes cannot be read or used. -/
inductive ByteSetError where
  | reversed (low high : UInt8)
  | unknownClass (name : Text)
  | emptySecond
  | misaligned
  | badClass
  | secondFill

namespace ByteItem

/-- A byte as it is told in a complaint. -/
def printable (byte : UInt8) : Text :=
  if 32 ≤ byte && byte < 127 then [Char.ofNat byte.toNat]
  else
    let digits := Nat.toDigits 8 byte.toNat
    '\\' :: List.replicate (3 - digits.length) '0' ++ digits

/-- The bytes of a text, each with whether it was written by an escape. As many steps are allowed. -/
def unescaped : Nat → List UInt8 → List (UInt8 × Bool)
  | 0, _ => []
  | _, [] => []
  | steps + 1, byte :: rest =>
      if byte ≠ 92 then (byte, false) :: unescaped steps rest
      else
        match rest with
        | [] => [(92, false)]
        | next :: after =>
            let isOctal (byte : UInt8) : Bool := 48 ≤ byte && byte ≤ 55
            if isOctal next then
              let three := (rest.take 3).takeWhile isOctal
              let value (digits : List UInt8) : Nat :=
                digits.foldl (fun value digit => 8 * value + (digit - 48).toNat) 0
              let digits := if 255 < value three then three.take 2 else three
              ((value digits).toUInt8, true) :: unescaped steps (rest.drop digits.length)
            else
              let letters : List (Char × UInt8) := [('a', 7), ('b', 8), ('f', 12), ('n', 10),
                ('r', 13), ('t', 9), ('v', 11)]
              let found := (letters.find? fun entry => entry.1.toNat = next.toNat).map Prod.snd
              (found.getD next, true) :: unescaped steps after

def nameOf (bytes : List (UInt8 × Bool)) : Text :=
  bytes.map fun byte => Char.ofNat byte.1.toNat

/-- A class or a repetition between brackets, and what is left after it. -/
def bracketed? (bytes : List (UInt8 × Bool)) : Option (ByteItem × List (UInt8 × Bool)) :=
  match bytes with
  | (58, false) :: rest =>
      let name := rest.takeWhile fun byte => byte ≠ ((58 : UInt8), false)
      match rest.drop name.length with
      | (58, false) :: (93, false) :: rest => some (.named (nameOf name), rest)
      | _ => none
  | (61, false) :: (byte, _) :: (61, false) :: (93, false) :: rest => some (.single byte, rest)
  | (byte, _) :: (42, false) :: rest =>
      let digits := (rest.takeWhile fun byte => byte.1 ≠ 93).map Prod.fst
      let text : Text := digits.map fun byte => Char.ofNat byte.toNat
      match rest.drop digits.length with
      | _ :: rest =>
          if !text.all Char.isDigit then none
          else
            let base := if text.head? = some '0' then 8 else 10
            let count := (Escapes.number (Real.digitValue? base) base text.length 0 text).1
            some (.repeated byte (if count = 0 then none else some count), rest)
      | [] => none
  | _ => none

/-- The items that bytes write. As many steps are allowed. -/
def items : Nat → List (UInt8 × Bool) → Except ByteSetError (List ByteItem)
  | 0, _ => .ok []
  | _, [] => .ok []
  | steps + 1, (byte, isEscaped) :: rest =>
      match if byte = 91 ∧ !isEscaped then bracketed? rest else none with
      | some (item, rest) => (items steps rest).map (item :: ·)
      | none =>
          match rest with
          | (45, false) :: (high, _) :: rest =>
              if high < byte then .error (.reversed byte high)
              else (items steps rest).map (.range byte high :: ·)
          | rest => (items steps rest).map (.single byte :: ·)

def list (text : Text) : Except ByteSetError (List ByteItem) := do
  let bytes := text.encode
  let found ← items (bytes.length + 1) (unescaped (bytes.length + 1) bytes)
  match found.findSome? fun item =>
      match item with
      | .named name => if (charClass? name).isNone then some name else none
      | _ => none with
  | some name => .error (.unknownClass name)
  | none => .ok found

def allBytes : List UInt8 :=
  (List.range 256).map Nat.toUInt8

/-- The bytes of an item. A repetition without a count gives as many as asked for. -/
def expand (fill : Nat) : ByteItem → List UInt8
  | .single byte => [byte]
  | .range low high => allBytes.filter fun byte => low ≤ byte && byte ≤ high
  | .named name =>
      allBytes.filter fun byte =>
        byte < 128 && ((charClass? name).map fun test => test (Char.ofNat byte.toNat)) = some true
  | .repeated byte count => List.replicate (count.getD fill) byte

def expandAll (fill : Nat) (items : List ByteItem) : List UInt8 :=
  items.flatMap (expand fill)

def isCase : ByteItem → Bool
  | .named name => name = "upper" || name = "lower"
  | _ => false

def isNamed : ByteItem → Bool
  | .named _ => true
  | _ => false

def isFill : ByteItem → Bool
  | .repeated _ none => true
  | _ => false

/-- The places of the bytes at which classes of letters begin. -/
def casePlaces (items : List ByteItem) : List Nat :=
  (items.foldl
    (fun (state : List Nat × Nat) item =>
      (if isCase item then state.1 ++ [state.2] else state.1,
        state.2 + (if isCase item then 26 else (expand 0 item).length)))
    ([], 0)).1

end ByteItem

/-- What `tr` does with each byte. -/
structure Transliteration where
  removed : List UInt8
  changed : List (UInt8 × UInt8)
  squeezed : List UInt8

namespace Transliteration

def apply (transliteration : Transliteration) (bytes : List UInt8) : List UInt8 :=
  let kept := bytes.filter fun byte => !transliteration.removed.contains byte
  let changed := kept.map fun byte =>
    ((transliteration.changed.find? fun entry => entry.1 = byte).map Prod.snd).getD byte
  if transliteration.squeezed.isEmpty then changed
  else
    (changed.foldl
      (fun (written : List UInt8) byte =>
        if written.head? = some byte && transliteration.squeezed.contains byte then written
        else byte :: written)
      []).reverse

/-- The pairs of bytes of two sets; the last byte of the second stands for all that are missing, unless
the first is cut. A later pair wins. -/
def pairs (truncates : Bool) (first second : List UInt8) : List (UInt8 × UInt8) :=
  let last := second.getLastD 0
  let second :=
    if truncates then second else second ++ List.replicate (first.length - second.length) last
  (first.zip second).reverse

end Transliteration

namespace Invocation

def tr (invocation : Invocation) : Effect :=
  match Options.read (OptionForm.table "c=complement C d=delete s=squeeze-repeats t=truncate-set1")
    true {} invocation.arguments with
  | .error error => invocation.misuse error.message 1
  | .ok options =>
      let deletes := options.has "d"
      let squeezes := options.has "s"
      let isComplement := options.has "c" || options.has "C"
      let wanted := if deletes && !squeezes then 1 else 2
      let least := if deletes == squeezes then 2 else 1
      let finish (first : List UInt8) (run : List UInt8 → Except ByteSetError Transliteration) :
          Except ByteSetError (List UInt8) :=
        (run (if isComplement then ByteItem.allBytes.filter (!first.contains ·) else first)).map
          fun transliteration => transliteration.apply invocation.input
      let result : Except ByteSetError (List UInt8) := do
        match options.operands with
        | [firstText] =>
            let first ← ByteItem.list firstText
            finish (ByteItem.expandAll 0 first) fun set =>
              .ok (if deletes then ⟨set, [], []⟩ else ⟨[], [], set⟩)
        | firstText :: secondText :: _ =>
            let first ← ByteItem.list firstText
            let second ← ByteItem.list secondText
            finish (ByteItem.expandAll 0 first) fun set =>
              let plain := second.filter fun item => !ByteItem.isFill item
              let fill := set.length - (ByteItem.expandAll 0 plain).length
              let other := ByteItem.expandAll fill second
              if 1 < second.countP ByteItem.isFill then .error .secondFill
              else if deletes then .ok ⟨set, [], other⟩
              else if other.isEmpty ∧ !set.isEmpty ∧ !options.has "t" then .error .emptySecond
              else if second.any fun item => ByteItem.isNamed item && !ByteItem.isCase item then
                .error .badClass
              else if !(ByteItem.casePlaces second).all (ByteItem.casePlaces first).contains then
                .error .misaligned
              else
                .ok ⟨[], Transliteration.pairs (options.has "t") set other,
                  if squeezes then other else []⟩
        | [] => .ok []
      if options.operands.length < least ∨ options.operands.isEmpty then
        match options.operands with
        | [] => invocation.misuse "missing operand" 1
        | word :: _ =>
            let note : Text :=
              if squeezes then "Two strings must be given when both deleting and squeezing repeats."
              else "Two strings must be given when translating."
            invocation.misuse ("missing operand after " ++ curled word ++ "\n" ++ note) 1
      else if wanted < options.operands.length then
        let note : Text :=
          if wanted = 1 ∧ options.operands.length = 2 then
            "\nOnly one string may be given when deleting without squeezing repeats."
          else ""
        invocation.misuse ("extra operand " ++ curled (options.operands.getD wanted []) ++ note) 1
      else
        match result with
        | .ok bytes => { invocation.report (.ofBytes bytes) with input := [] }
        | .error error =>
            invocation.refuse
              (match error with
                | .reversed low high =>
                    "range-endpoints of '" ++ ByteItem.printable low ++ "-" ++
                      ByteItem.printable high ++ "' are in reverse collating sequence order"
                | .unknownClass name => "invalid character class " ++ curled name
                | .emptySecond => "when not truncating set1, string2 must be non-empty"
                | .misaligned => "misaligned \x5b:upper:\x5d and/or \x5b:lower:\x5d construct"
                | .badClass =>
                    "when translating, the only character classes that may appear in\n" ++
                      "string2 are 'upper' and 'lower'"
                | .secondFill =>
                    "only one \x5bc*\x5d repeat construct may appear in string2") 1

end Invocation

/-- How `od` shows bytes: as characters, by their names, or as numbers of so many bytes to some base,
of which those with a sign are decimal. Text may follow. -/
inductive DumpKind where
  | characters
  | names
  | unsigned (base : Nat)
  | signed
  deriving DecidableEq

structure DumpFormat where
  kind : DumpKind
  size : Nat
  showsText : Bool := false

namespace DumpFormat

/-- How many digits the greatest number takes. -/
def width (format : DumpFormat) : Nat :=
  match format.kind with
  | .characters | .names => 3
  | .unsigned base => (Nat.toDigits base (Nat.pow 256 format.size - 1)).length
  | .signed => (Nat.toDigits 10 (Nat.pow 256 format.size / 2)).length + 1

def names : List Text :=
  Text.cut ' ' ("nul soh stx etx eot enq ack bel bs ht nl vt ff cr so si dle dc1 dc2 dc3 dc4 nak syn " ++
    "etb can em sub esc fs gs rs us sp")

def characterText (byte : UInt8) : Text :=
  let letters : List (UInt8 × Text) := [(0, "\\0"), (7, "\\a"), (8, "\\b"), (9, "\\t"), (10, "\\n"),
    (11, "\\v"), (12, "\\f"), (13, "\\r")]
  match letters.find? fun entry => entry.1 = byte with
  | some (_, text) => text
  | none =>
      if 32 ≤ byte && byte < 127 then [Char.ofNat byte.toNat]
      else
        let digits := Nat.toDigits 8 byte.toNat
        List.replicate (3 - digits.length) '0' ++ digits

/-- The text of a group of bytes, the least significant one first. -/
def field (format : DumpFormat) (bytes : List UInt8) : Text :=
  let value := bytes.foldr (fun byte value => 256 * value + byte.toNat) 0
  let limit := Nat.pow 256 format.size
  match format.kind with
  | .characters => characterText (bytes.headD 0)
  | .names =>
      let low := (bytes.headD 0).toNat % 128
      if low = 127 then "del" else names.getD low [Char.ofNat low]
  | .unsigned base =>
      let digits := Nat.toDigits base value
      if base = 10 then digits else List.replicate (format.width - digits.length) '0' ++ digits
  | .signed => Text.ofInt (if 2 * value < limit then value else (value : Int) - limit)

/-- The groups of bytes in a block. The last group is filled up with zeros. As many steps are
allowed. -/
def groups (size : Nat) : Nat → List UInt8 → List (List UInt8)
  | 0, _ => []
  | _, [] => []
  | steps + 1, bytes =>
      let group := bytes.take size
      (group ++ List.replicate (size - group.length) 0) :: groups size steps (bytes.drop size)

/-- The line of a block, in which each field stands in its share of some columns. -/
def line (format : DumpFormat) (columns blockSize : Nat) (block : List UInt8) : Text :=
  let count := blockSize / format.size
  let padding := columns - (format.width + 1) * count
  let share (field : Nat) : Nat :=
    format.width + 1 + padding * (count - field) / count - padding * (count - field - 1) / count
  let fields := groups format.size block.length block
  let shown := fields.zipIdx.flatMap fun (bytes, index) =>
    rightAligned (share index) (format.field bytes)
  let missing :=
    ((List.range count).drop fields.length).foldl (fun total field => total + share field) 0
  let text := block.map fun byte =>
    if 32 ≤ byte && byte < 127 then Char.ofNat byte.toNat else '.'
  if format.showsText then
    shown ++ List.replicate missing ' ' ++ "  >" ++ text ++ "<"
  else
    shown

/-- The size that letters or digits behind a kind of number stand for. -/
def size? (text : Text) : Option (Nat × Text) :=
  match text with
  | 'C' :: rest => some (1, rest)
  | 'S' :: rest => some (2, rest)
  | 'I' :: rest => some (4, rest)
  | 'L' :: rest => some (8, rest)
  | text =>
      let digits := text.takeWhile Char.isDigit
      let size := if digits.isEmpty then 4 else (count? digits).getD 0
      if [1, 2, 4, 8].contains size then some (size, text.drop digits.length) else none

/-- The formats that a word of types asks for. As many steps are allowed. -/
def ofTypes (word : Text) : Nat → Text → Except Text (List DumpFormat)
  | 0, _ => .ok []
  | _, [] => .ok []
  | steps + 1, letter :: rest => do
      let (kind, size, rest) : DumpKind × Nat × Text ←
        if letter = 'a' then .ok (.names, 1, rest)
        else if letter = 'c' then .ok (.characters, 1, rest)
        else
          let kind? : Option DumpKind :=
            if letter = 'd' then some .signed
            else if letter = 'o' then some (.unsigned 8)
            else if letter = 'u' then some (.unsigned 10)
            else if letter = 'x' then some (.unsigned 16)
            else none
          match kind?, size? rest with
          | none, _ =>
              .error ("invalid character '" ++ [letter] ++ "' in type string " ++ curled word)
          | some _, none =>
              .error ("invalid type string " ++ curled word ++
                ";\nthis system doesn't provide a " ++ rest.takeWhile Char.isDigit ++
                "-byte integral type")
          | some kind, some (size, rest) => .ok (kind, size, rest)
      let showsText := rest.head? = some 'z'
      let others ← ofTypes word steps (if showsText then rest.tail else rest)
      .ok (⟨kind, size, showsText⟩ :: others)

end DumpFormat

/-- A dump of bytes from some place on. -/
structure Dump where
  formats : List DumpFormat
  blockSize : Nat
  radix : Char
  showsAll : Bool

namespace Dump

def address (dump : Dump) (offset : Nat) : Text :=
  let padded (width base : Nat) : Text :=
    let digits := Nat.toDigits base offset
    List.replicate (width - digits.length) '0' ++ digits
  match dump.radix with
  | 'd' => padded 7 10
  | 'x' => padded 6 16
  | 'n' => []
  | _ => padded 7 8

def columns (dump : Dump) : Nat :=
  ((dump.formats.map fun format => (format.width + 1) * (dump.blockSize / format.size)).max?).getD 0

def block (dump : Dump) (offset : Nat) (bytes : List UInt8) : Text :=
  dump.formats.zipIdx.flatMap fun (format, index) =>
    let label := dump.address offset
    (if index = 0 then label else List.replicate label.length ' ') ++
      format.line dump.columns dump.blockSize bytes ++ "\n"

/-- The lines of a dump. A whole block that is the same as the one before it is left out. As many steps are
allowed. -/
def lines (dump : Dump) : Nat → Nat → Option (List UInt8) → Bool → List UInt8 → Text
  | 0, _, _, _, _ => []
  | steps + 1, offset, before, isOmitting, bytes =>
      let block := bytes.take dump.blockSize
      let rest := bytes.drop dump.blockSize
      if bytes.isEmpty then
        if dump.radix = 'n' then [] else dump.address offset ++ "\n"
      else if !dump.showsAll && before = some block && block.length = dump.blockSize then
        (if isOmitting then ("" : Text) else "*\n") ++
          dump.lines steps (offset + block.length) before true rest
      else
        dump.block offset block ++
          dump.lines steps (offset + block.length) (some block) false rest

end Dump

namespace Invocation

/-- Byte counts with the factors of letters behind them, or to a base that their first digits show. -/
def byteCount? (word : Text) : Option Nat :=
  match word with
  | '0' :: 'x' :: digits =>
      if digits ≠ [] ∧ digits.all fun c => (Escapes.hexDigit? c).isSome then
        some (Escapes.number Escapes.hexDigit? 16 digits.length 0 digits).1
      else none
  | '0' :: digits =>
      if digits.all fun c => (Escapes.octalDigit? c).isSome then
        some (Escapes.number Escapes.octalDigit? 8 digits.length 0 digits).1
      else none
  | word => Portion.count? word

def od (invocation : Invocation) : Effect :=
  invocation.reading ("A:=address-radix j:=skip-bytes N:=read-bytes S::=strings t:=format " ++
    "v=output-duplicates w::=width a b c d D e f F h H i I l L o O s x X =traditional :=endian") 1
    fun options =>
    let types : List (Text × Text) := [("a", "a"), ("b", "o1"), ("c", "c"), ("d", "u2"), ("D", "u4"),
      ("h", "x2"), ("H", "x4"), ("i", "d4"), ("I", "d8"), ("l", "d8"), ("L", "d8"), ("o", "o2"),
      ("O", "o4"), ("s", "d2"), ("x", "x2"), ("X", "x4")]
    let words := options.found.filterMap fun (key, value) =>
      if key = ['t'] then some value
      else (types.find? fun entry => entry.1 = key).map Prod.snd
    let radix := ((options.value? "A").getD "o").headD 'o'
    let badCount := (["j", "N"] : List Text).findSome? fun key =>
      ((options.value? key).filter fun word => (byteCount? word).isNone).map fun word =>
        "invalid -" ++ key ++ " argument " ++ quotedWord word
    let files := orStandardInput options.operands
    match words.mapM fun word => DumpFormat.ofTypes word (word.length + 1) word, badCount with
    | .error text, _ | _, some text => invocation.refuse text 1
    | .ok formats, none =>
        let formats := formats.flatten
        let formats := if formats.isEmpty then [⟨.unsigned 8, 2, false⟩] else formats
        let unit := ((formats.map DumpFormat.size).max?).getD 1
        let asked : Option Nat := (options.value? "w").map fun word =>
          if word.isEmpty then 32 else (count? word).getD 0
        let isWrong := asked.any fun width => width = 0 ∨ width % unit ≠ 0
        let blockSize := if isWrong then unit else asked.getD (16 / unit * unit)
        let warning : Outcome :=
          if isWrong then
            .ofError (invocation.message ("warning: invalid width " ++
              Text.ofNat (asked.getD 0) ++ "; using " ++ Text.ofNat unit ++ " instead")) 0
          else {}
        let (bytes, complaints) := invocation.readAll files
        let skipped := ((options.value? "j").bind byteCount?).getD 0
        let kept := bytes.drop skipped
        let kept := kept.take (((options.value? "N").bind byteCount?).getD kept.length)
        if !("doxn".toList.contains radix) then
          invocation.refuse ("invalid output address radix '" ++ [radix] ++
            "'; it must be one character from \x5bdoxn\x5d") 1
        else if bytes.length < skipped then
          invocation.refuse "cannot skip past end of combined input" 1
        else
          let dump : Dump := ⟨formats, blockSize, radix, options.has "v"⟩
          let isAbsent (path : Text) : Bool :=
            match invocation.read path with
            | .error errno => errno ≠ .isDirectory
            | .ok _ => false
          let text :=
            if files.all isAbsent then [] else dump.lines (kept.length + 1) skipped none false kept
          invocation.reportRead files ((complaints.append warning).append (.ofText text))

/-- Where two files differ first: the number of the byte and that of the line, or the end of the shorter
one. -/
inductive Difference where
  | bytes (number line : Nat) (first second : UInt8)
  | ending (ofSecond : Bool) (number line : Nat) (afterLine : Bool)

def difference? : Nat → Nat → Bool → List UInt8 → List UInt8 → Option Difference
  | _, _, _, [], [] => none
  | number, line, afterLine, [], _ :: _ => some (.ending false number line afterLine)
  | number, line, afterLine, _ :: _, [] => some (.ending true number line afterLine)
  | number, line, _, a :: first, b :: second =>
      if a = b then
        difference? (number + 1) (if a = 10 then line + 1 else line) (a = 10) first second
      else
        some (.bytes (number + 1) line a b)

def cmp (invocation : Invocation) : Effect :=
  match Options.read (OptionForm.table
    "b=print-bytes i:=ignore-initial l=verbose n:=bytes s=quiet,silent") false {}
    invocation.arguments with
  | .error error =>
      invocation.report (.ofError (invocation.message error.message ++ invocation.name ++ ": " ++
        invocation.hint) 2)
  | .ok options =>
      let quiet := options.has "s"
      let skipped := ((options.value? "i").bind Portion.count?).getD 0
      let refuse (path : Text) (errno : Errno) : Effect :=
        if quiet then invocation.report (.ofStatus 2)
        else invocation.refuse (path ++ ": " ++ errno.text) 2
      match options.operands with
      | [] =>
          invocation.report (.ofError (invocation.message
            ("missing operand after '" ++ invocation.name ++ "'") ++
            invocation.name ++ ": " ++ invocation.hint) 2)
      | firstPath :: others =>
          let secondPath := others.headD ['-']
          match invocation.read firstPath, invocation.read secondPath with
          | .error errno, _ => refuse firstPath errno
          | _, .error errno => refuse secondPath errno
          | .ok firstBytes, .ok secondBytes =>
              let limit := ((options.value? "n").bind Portion.count?).getD
                (max firstBytes.length secondBytes.length)
              let first := (firstBytes.drop skipped).take limit
              let second := (secondBytes.drop skipped).take limit
              let endText (ofSecond : Bool) : Text :=
                "EOF on " ++ if ofSecond then secondPath else firstPath
              let octal (byte : UInt8) : Text := rightAligned 3 (Nat.toDigits 8 byte.toNat)
              let shown (byte : UInt8) : Text :=
                (Display.visible byte).map fun byte => Char.ofNat byte.toNat
              let outcome : Outcome :=
                match difference? 0 1 false first second with
                | none => {}
                | some (.ending ofSecond number line afterLine) =>
                    if quiet then .ofStatus 1
                    else if number = 0 then
                      .ofError (invocation.message (endText ofSecond ++ " which is empty")) 1
                    else
                      let place : Text := if options.has "l" then ""
                        else if afterLine then ", line " ++ Text.ofNat (line - 1)
                        else ", in line " ++ Text.ofNat line
                      .ofError (invocation.message
                        (endText ofSecond ++ " after byte " ++ Text.ofNat number ++ place)) 1
                | some (.bytes number line a b) =>
                    if quiet then .ofStatus 1
                    else if options.has "l" then {}
                    else
                      let bytes : Text := if options.has "b" then
                          " is " ++ octal a ++ " " ++ shown a ++ " " ++ octal b ++ " " ++ shown b
                        else []
                      ⟨[(.output, Text.encode (firstPath ++ " " ++ secondPath ++ " differ: byte " ++
                        Text.ofNat number ++ ", line " ++ Text.ofNat line ++ bytes ++ "\n"))], 1⟩
              let all : Outcome :=
                if !options.has "l" || quiet then outcome
                else
                  let width := (Text.ofNat (min first.length second.length)).length
                  let rows := (first.zip second).zipIdx 1 |>.filter fun row => row.1.1 ≠ row.1.2
                  let text : Text := rows.flatMap fun ((a, b), number) =>
                    (rightAligned width (Text.ofNat number) ++ " " ++ octal a ++ " " ++ octal b ++
                      "\n" : Text)
                  let ending : Outcome :=
                    if first.length = second.length then {}
                    else
                      let ofSecond := second.length < first.length
                      let length := min first.length second.length
                      let place : Text := if length = 0 then " which is empty"
                        else " after byte " ++ Text.ofNat length
                      .ofError (invocation.message (endText ofSecond ++ place)) 1
                  (Outcome.append ⟨[(.output, text.encode)], if rows.isEmpty then 0 else 1⟩ ending)
              invocation.reportRead [firstPath, secondPath] all

end Invocation

end AsmLens.Shell
