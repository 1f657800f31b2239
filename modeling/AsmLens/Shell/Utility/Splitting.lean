import AsmLens.Shell.Utility.Basic
import AsmLens.Shell.Utility.Digest
import AsmLens.Text.Number

namespace AsmLens.Shell

/-- A number of bytes with a letter for a unit behind it. -/
def byteCount? (word : Text) : Option Nat :=
  let digits := word.takeWhile Char.isDigit
  let units : List (Text × Nat) := [("", 1), ("c", 1), ("w", 2), ("b", 512), ("k", 1024),
    ("K", 1024), ("KiB", 1024), ("kB", 1000), ("KB", 1000), ("M", 1048576), ("MiB", 1048576),
    ("MB", 1000000), ("G", 1073741824), ("GiB", 1073741824), ("GB", 1000000000)]
  match count? digits, units.find? fun entry => entry.1 = word.drop digits.length with
  | some value, some (_, unit) => some (value * unit)
  | _, _ => none

namespace Invocation

/-- The operands of `dd` by their names. -/
def blockOperands : List Text := ["if", "of", "bs", "ibs", "obs", "cbs", "count", "skip",
  "iseek", "seek", "oseek", "conv", "iflag", "oflag", "status"]

/-- Bytes whose neighbours have changed places. -/
def swapped : List UInt8 → List UInt8
  | first :: second :: rest => second :: first :: swapped rest
  | rest => rest

/-- Copies blocks of bytes. -/
def dd (invocation : Invocation) : Effect :=
  let words := invocation.arguments.filter (· ≠ ['-', '-'])
  let named := words.map fun word =>
    let name := word.takeWhile (· ≠ '=')
    (word, name, word.drop (name.length + 1))
  let value? (name : String) : Option Text :=
    ((named.filter fun entry => entry.2.1 = name.toList).getLast?).map fun entry => entry.2.2
  let isKnown (entry : Text × Text × Text) : Bool :=
    blockOperands.contains entry.2.1 && entry.1.contains '='
  let size (name : String) (default : Nat) : Except Text Nat :=
    match value? name with
    | none => .ok default
    | some word =>
        match byteCount? word with
        | some value => .ok value
        | none => .error ("invalid number: " ++ quotedWord word)
  let positive (name : String) (default : Nat) : Except Text Nat := do
    let value ← size name default
    if value = 0 then .error ("invalid number: " ++ quotedWord ((value? name).getD [])) else .ok value
  let conversions : List Text := ((value? "conv").map (Text.cut ',')).getD []
  let conversionNames : List Text := ["ucase", "lcase", "swab", "notrunc", "sync", "noerror", "fsync",
    "fdatasync", "nocreat", "excl", "sparse", "block", "unblock", "ascii", "ebcdic", "ibm"]
  let statuses : List Text := ["none", "noxfer", "progress"]
  match named.find? fun entry => !isKnown entry with
  | some (word, _) => invocation.misuse ("unrecognized operand " ++ quotedWord word) 1
  | none =>
  match conversions.find? fun name => !conversionNames.contains name with
  | some name => invocation.misuse ("invalid conversion: " ++ curled name) 1
  | none =>
  match (value? "status").filter fun name => !statuses.contains name with
  | some name => invocation.misuse ("invalid status level: " ++ curled name) 1
  | none =>
      let numbers : Except Text (Nat × Nat × Option Nat × Nat × Nat) := do
        let both ← positive "bs" 512
        let inSize ← positive "ibs" both
        let outSize ← positive "obs" both
        let count ← size "count" 0
        let skipped ← size "skip" 0
        let sought ← size "seek" 0
        .ok (if (value? "bs").isSome then both else inSize,
          if (value? "bs").isSome then both else outSize,
          (value? "count").map fun _ => count, skipped, sought)
      match numbers with
      | .error message => invocation.refuse message 1
      | .ok (inSize, outSize, count?, skipped, sought) =>
          let endless : Bool := value? "if" = some "/dev/zero".toList
          let source : Except Errno (List UInt8) :=
            match value? "if" with
            | none => .ok invocation.input
            | some path =>
                if endless then .ok (List.replicate ((skipped + count?.getD 0) * inSize) 0)
                else invocation.tree.readBytes path
          match source with
          | .error errno =>
              let path := quotedWord ((value? "if").getD [])
              invocation.refuse
                ((if errno = Errno.isDirectory then ("error reading " : Text) else "failed to open ") ++
                  path ++ ": " ++ errno.text) 1
          | .ok bytes =>
              let rest := bytes.drop (skipped * inSize)
              let kept :=
                match count? with
                | some count => rest.take (count * inSize)
                | none => rest
              let cased (change : Char → Char) (bytes : List UInt8) : List UInt8 :=
                bytes.map fun (byte : UInt8) => (change (Char.ofNat byte.toNat)).toNat.toUInt8
              let converted := conversions.foldl
                (fun (bytes : List UInt8) (name : Text) =>
                  if name = "ucase" then cased Char.toUpper bytes
                  else if name = "lcase" then cased Char.toLower bytes
                  else if name = "swab" then
                    (chunks inSize (bytes.length + 1) bytes).flatMap swapped
                  else if name = "sync" then
                    bytes ++ List.replicate ((inSize - bytes.length % inSize) % inSize) 0
                  else bytes)
                kept
              let records (length size : Nat) : Text :=
                Text.ofNat (length / size) ++ "+" ++ (if length % size = 0 then ("0" : Text) else "1")
              let total := records kept.length inSize ++ " records in\n" ++
                records converted.length outSize ++ " records out\n"
              let copied := Text.ofNat converted.length ++
                (if converted.length = 1 then (" byte" : Text) else " bytes") ++
                  " copied, 0.0 s, 0.0 kB/s\n"
              let report : Outcome :=
                if value? "status" = some "none".toList then {}
                else if value? "status" = some "noxfer".toList then .ofError total 0
                else .ofError (total ++ copied) 0
              let left := if (value? "if").isNone then
                  match count? with
                  | some _ => rest.drop kept.length
                  | none => []
                else invocation.input
              match value? "of" with
              | none => ⟨invocation.tree, left, (Outcome.ofBytes converted).append report⟩
              | some path =>
                  let before := (invocation.tree.readBytes path).toOption.getD []
                  let place := sought * outSize
                  let start := before.take place ++ List.replicate (place - before.length) 0
                  let after :=
                    if conversions.contains "notrunc" then before.drop (place + converted.length) else []
                  let isDevice : Bool := path = "/dev/null" || path = "/dev/stdout"
                  if isDevice then
                    let shown : Outcome := if path = "/dev/stdout" then .ofBytes converted else {}
                    ⟨invocation.tree, left, shown.append report⟩
                  else
                    match invocation.tree.writeBytes path (start ++ converted ++ after) with
                    | .ok tree => ⟨tree, left, report⟩
                    | .error errno =>
                        invocation.refuse ("failed to open " ++ quotedWord path ++ ": " ++ errno.text) 1

/-- The letters or digits that tell the parts of a split file. -/
def partSuffix (digits : Text) (length number : Nat) : Text :=
  let base := digits.length
  (List.range length).map fun place =>
    digits.getD (number / Nat.pow base (length - 1 - place) % base) 'a'

/-- Lines put together as long as they have no more than so many bytes. As many steps are allowed. -/
def packed (size : Nat) : Nat → List UInt8 → List (List UInt8) → List (List UInt8)
  | 0, held, _ => if held.isEmpty then [] else [held]
  | _, held, [] => if held.isEmpty then [] else [held]
  | steps + 1, held, line :: rest =>
      if held.length + line.length ≤ size then packed size steps (held ++ line) rest
      else if held.isEmpty then
        line.take size :: packed size steps [] (line.drop size :: rest)
      else held :: packed size steps [] (line :: rest)

/-- So many parts of bytes. The last one has what is left over. -/
def portions (count : Nat) (bytes : List UInt8) : List (List UInt8) :=
  let size := bytes.length / count
  (List.range count).map fun index =>
    if index + 1 = count then bytes.drop (index * size) else (bytes.drop (index * size)).take size

/-- So many parts of whole lines. A line is in the part in which it starts. -/
def linePortions (count : Nat) (bytes : List UInt8) : List (List UInt8) :=
  let size := max 1 (bytes.length / count)
  let started := (byteLines bytes).foldl
    (fun (before : Nat × List (Nat × List UInt8)) line =>
      (before.1 + line.length, before.2 ++ [(min (count - 1) (before.1 / size), line)]))
    (0, [])
  (List.range count).map fun index =>
    started.2.flatMap fun (part, line) => if part = index then line else []

/-- Writes the parts of a file to files of their own. -/
def split (invocation : Invocation) : Effect :=
  invocation.reading ("a:=suffix-length b:=bytes C:=line-bytes d x l:=lines n:=number " ++
    "e=elide-empty-files :=additional-suffix ::=numeric-suffixes ::=hex-suffixes =verbose " ++
    "t:=separator u=unbuffered") 1
    fun options =>
    let ways := ["b", "C", "l", "n"].filter fun (key : String) => options.has key.toList
    let number (key : String) (what : Text) (read : Text → Option Nat) : Except Text Nat :=
      match options.value? key.toList with
      | none => .ok 1000
      | some word =>
          match (read word).filter (0 < ·) with
          | some value => .ok value
          | none => .error ("invalid number of " ++ what ++ ": " ++ curled word)
    match ways, options.operands with
    | _ :: _ :: _, _ => invocation.misuse "cannot split in more than one way" 1
    | _, _ :: _ :: extra :: _ => invocation.misuse ("extra operand " ++ curled extra) 1
    | way, operands =>
        let path := operands.headD ['-']
        let prefixed := operands.getD 1 ['x']
        match invocation.read path with
        | .error .isDirectory => invocation.refuse (shownName path ++ ": Is a directory") 1
        | .error errno =>
            invocation.refuse
              ("cannot open " ++ quotedWord path ++ " for reading: " ++ errno.text) 1
        | .ok bytes =>
            let parts : Except Text (List (List UInt8)) :=
              match way with
              | ["b"] => do
                  let size ← number "b" "bytes" byteCount?
                  .ok (chunks size (bytes.length + 1) bytes)
              | ["C"] => do
                  let size ← number "C" "lines" byteCount?
                  .ok (packed size (2 * bytes.length + 2) [] (byteLines bytes))
              | ["n"] =>
                  match options.value? "n" with
                  | some ('l' :: '/' :: digits) =>
                      match (count? digits).filter (0 < ·) with
                      | some count => .ok (linePortions count bytes)
                      | none => .error ("invalid number of chunks: " ++ curled digits)
                  | _ => do
                      let count ← number "n" "chunks" count?
                      .ok (portions count bytes)
              | _ => do
                  let count ← number "l" "lines" byteCount?
                  let lines := byteLines bytes
                  .ok ((chunks count (lines.length + 1) lines).map List.flatten)
            match parts with
            | .error message => invocation.refuse message 1
            | .ok parts =>
                let kept := if options.has "e" then parts.filter (· ≠ []) else parts
                let decimal : Text := "0123456789"
                let isDecimal := options.has "d" || options.has "numeric-suffixes"
                let isHex := options.has "x" || options.has "hex-suffixes"
                let digits : Text :=
                  if isDecimal then decimal
                  else if isHex then decimal ++ "abcdef"
                  else "abcdefghijklmnopqrstuvwxyz"
                let first := ((options.value? "numeric-suffixes").bind count?).getD 0
                let length := ((options.value? "a").bind count?).getD 2
                let ending := (options.value? "additional-suffix").getD []
                let start : Effect := invocation.reportRead [path] {}
                (kept.zipIdx).foldl
                  (fun (effect : Effect) (part, index) =>
                    let name := prefixed ++ partSuffix digits length (first + index) ++ ending
                    match effect.tree.writeBytes name part with
                    | .ok tree =>
                        let said : Outcome :=
                          if options.has "verbose" then
                            .ofText ("creating file " ++ quotedWord name ++ "\n")
                          else {}
                        { effect with tree, outcome := effect.outcome.append said }
                    | .error errno =>
                        { effect with
                          outcome := effect.outcome.append
                            (.ofError (invocation.message (name ++ ": " ++ errno.text)) 1) })
                  start

/-- The prime factors of a number, from some divisor on. As many divisors are tried. -/
def factorsFrom : Nat → Nat → Nat → List Nat
  | 0, _, number => [number]
  | steps + 1, divisor, number =>
      if number < 2 then []
      else if number < divisor * divisor then [number]
      else if number % divisor = 0 then divisor :: factorsFrom steps divisor (number / divisor)
      else factorsFrom steps (if divisor = 2 then 3 else divisor + 2) number

/-- Tells the prime factors of numbers. -/
def factor (invocation : Invocation) : Effect :=
  invocation.reading "h=exponents" 1 fun options =>
    let isGiven := !options.operands.isEmpty
    let read : Text := invocation.input.map fun byte => Char.ofNat byte.toNat
    let words :=
      if isGiven then options.operands
      else (Text.cut ' ' (read.map fun c => if c = '\n' ∨ c = '\t' then ' ' else c)).filter (· ≠ [])
    let outcomes := words.map fun word =>
      match count? (if word.head? = some '+' then word.tail else word) with
      | none =>
          Outcome.ofError (invocation.message (curled word ++ " is not a valid positive integer")) 1
      | some value =>
          .ofText (Text.ofNat value ++ ":" ++
            ((factorsFrom 1000000 2 value).flatMap fun prime => ' ' :: Text.ofNat prime) ++ "\n")
    let all := (outcomes.foldl Outcome.append {}).errorsFirst
    { invocation.report all with input := if isGiven then invocation.input else [] }

end Invocation

end AsmLens.Shell
