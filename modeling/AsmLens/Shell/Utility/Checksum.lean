import AsmLens.Shell.Regex.Basic
import AsmLens.Shell.Utility.Basic
import AsmLens.Shell.Utility.Digest
import AsmLens.Text.Octets

namespace AsmLens.Shell

/-- A digest with the name it has in lines that tell it. -/
structure DigestKind where
  title : Text
  digest : List UInt8 → List UInt8

namespace DigestKind

def all : List (Text × DigestKind) := [
  ("md5sum", ⟨"MD5", Digest.md5⟩),
  ("sha1sum", ⟨"SHA1", Digest.sha1⟩),
  ("sha224sum", ⟨"SHA224", Digest.Family.sha224.digest⟩),
  ("sha256sum", ⟨"SHA256", Digest.Family.sha256.digest⟩),
  ("sha384sum", ⟨"SHA384", Digest.Family.sha384.digest⟩),
  ("sha512sum", ⟨"SHA512", Digest.Family.sha512.digest⟩)]

def hexDigits (bytes : List UInt8) : Text :=
  bytes.flatMap fun byte => [Nat.digitChar (byte.toNat / 16), Nat.digitChar (byte.toNat % 16)]

def text (kind : DigestKind) (bytes : List UInt8) : Text :=
  hexDigits (kind.digest bytes)

/-- A line that tells the digest of a file. Line feeds in the name are written with backslashes, which
another one at the front announces. -/
def line (isTagged isBinary isRaw : Bool) (kind : DigestKind) (name : Text)
    (bytes : List UInt8) : Text :=
  let needsEscapes := !isRaw && name.any fun c => c = '\\' || c = '\n' || c = '\r'
  let shown : Text :=
    if needsEscapes then
      name.flatMap fun c =>
        match c with
        | '\\' => ['\\', '\\']
        | '\n' => ['\\', 'n']
        | '\r' => ['\\', 'r']
        | c => [c]
    else name
  let start : Text := if needsEscapes then ['\\'] else []
  let ending : Text := if isRaw then ['\x00'] else ['\n']
  if isTagged then start ++ kind.title ++ " (" ++ shown ++ ") = " ++ kind.text bytes ++ ending
  else
    start ++ kind.text bytes ++ (if isBinary then [' ', '*'] else [' ', ' ']) ++ shown ++ ending

def unescaped : Text → Text
  | '\\' :: 'n' :: rest => '\n' :: unescaped rest
  | '\\' :: 'r' :: rest => '\r' :: unescaped rest
  | '\\' :: '\\' :: rest => '\\' :: unescaped rest
  | c :: rest => c :: unescaped rest
  | [] => []

/-- The digest and the name of the file that a line tells. -/
def ofLine? (kind : DigestKind) (line : Text) : Option (Text × Text) :=
  let (isEscaped, bare) : Bool × Text :=
    match line with
    | '\\' :: rest => (true, rest)
    | rest => (false, rest)
  let length := 2 * (kind.digest []).length
  let isDigest (word : Text) : Bool :=
    word.length = length && word.all fun c => (charClass? "xdigit").any fun test => test c
  let named (digest name : Text) : Option (Text × Text) :=
    if isDigest digest && !name.isEmpty then
      some (digest.map Char.toLower, if isEscaped then unescaped name else name)
    else none
  let start := kind.title ++ " ("
  if start.isPrefixOf bare then
    let digest := (bare.reverse.takeWhile (· ≠ ' ')).reverse
    let name := (bare.drop start.length).take (bare.length - start.length - digest.length - 4)
    if (") = " ++ digest : Text).isSuffixOf bare then named digest name else none
  else
    match bare.drop length with
    | ' ' :: ' ' :: name | ' ' :: '*' :: name => named (bare.take length) name
    | _ => none

end DigestKind

/-- How far the lines of a list of digests have been looked at. -/
structure DigestCheck where
  outcome : Outcome := {}
  line : Nat := 0
  malformed : Nat := 0
  unreadable : Nat := 0
  different : Nat := 0
  good : Nat := 0

namespace Invocation

def counted (count : Nat) (one many : Text) : Text :=
  Text.ofNat count ++ if count = 1 then one else many

/-- Looks whether the files that a list names still have their digests. -/
def checkDigests (invocation : Invocation) (kind : DigestKind) (options : Options) (path : Text) :
    Outcome :=
  match invocation.read path with
  | .error errno => invocation.complaint path errno
  | .ok bytes =>
      let title : Text := if isStandardInput path then "'standard input'" else shownName path
      let isSilent := options.has "status"
      let say (check : DigestCheck) (outcome : Outcome) : DigestCheck :=
        { check with outcome := check.outcome.append outcome }
      let step (check : DigestCheck) (line : Text) : DigestCheck :=
        let check := { check with line := check.line + 1 }
        match kind.ofLine? line with
        | none =>
            let said : Outcome :=
              if options.has "w" then
                .ofError (invocation.message (title ++ ": " ++ Text.ofNat check.line ++
                  ": improperly formatted " ++ kind.title ++ " checksum line")) 0
              else {}
            if line.isEmpty ∨ line.head? = some '#' then check
            else { say check said with malformed := check.malformed + 1 }
        | some (digest, name) =>
            let tell (ending : Text) : Outcome :=
              if isSilent then {} else .ofText (name ++ ": " ++ ending ++ "\n")
            match invocation.tree.readBytes name with
            | .error .noEntry =>
                if options.has "ignore-missing" then check
                else
                  { say check
                      (⟨(invocation.complaint name .noEntry).written ++
                        (tell "FAILED open or read").written, 0⟩) with
                    unreadable := check.unreadable + 1 }
            | .error errno =>
                { say check
                    (⟨(invocation.complaint name errno).written ++
                      (tell "FAILED open or read").written, 0⟩) with
                  unreadable := check.unreadable + 1 }
            | .ok bytes =>
                if kind.text bytes = digest then
                  { say check (if options.has "quiet" then {} else tell "OK") with
                    good := check.good + 1 }
                else { say check (tell "FAILED") with different := check.different + 1 }
      let check := ((bareLines bytes).map Text.ofOctets).foldl step {}
      let hasLines := check.good + check.different + check.unreadable ≠ 0
      let warn (count : Nat) (one many : Text) : Text :=
        if count = 0 ∨ isSilent then []
        else invocation.message ("WARNING: " ++ counted count one many)
      let isNothing := !hasLines && !(options.has "ignore-missing" &&
        check.malformed < check.line)
      if isNothing then
        check.outcome.append
          (.ofError (invocation.message (title ++ ": no properly formatted checksum lines found")) 1)
      else
        let warnings :=
          warn check.malformed " line is improperly formatted" " lines are improperly formatted" ++
          warn check.unreadable " listed file could not be read"
            " listed files could not be read" ++
          warn check.different " computed checksum did NOT match"
            " computed checksums did NOT match" ++
          if check.good + check.different + check.unreadable = 0 then
            invocation.message (title ++ ": no file was verified")
          else []
        let isGood := check.different + check.unreadable = 0 && hasLines &&
          (check.malformed = 0 || !options.has "strict")
        check.outcome.append (if warnings.isEmpty then .ofStatus (if isGood then 0 else 1)
          else .ofError warnings (if isGood then 0 else 1))

/-- Tells the digests of files, or looks whether they are as they were told. -/
def digests (kind : DigestKind) (invocation : Invocation) : Effect :=
  invocation.reading ("b=binary c=check t=text w=warn z=zero =ignore-missing =quiet =status " ++
    "=strict =tag") 1 fun options =>
    let isChecking := options.has "c"
    let files := orStandardInput options.operands
    let checkOnly : List (Text × Text) := [("ignore-missing", "ignore-missing"), ("status", "status"),
      ("w", "warn"), ("quiet", "quiet"), ("strict", "strict")]
    match checkOnly.find? (fun entry => options.has entry.1), isChecking with
    | some (_, name), false =>
        invocation.misuse
          ("the --" ++ name ++ " option is meaningful only when verifying checksums") 1
    | _, true =>
        if options.has "tag" then
          invocation.misuse "the --tag option is meaningless when verifying checksums" 1
        else
          invocation.reportRead files <| files.foldl
            (fun (outcome : Outcome) path =>
              outcome.append (invocation.checkDigests kind options path)) {}
    | none, false =>
        let isBinary := options.last? ["b", "t"] = some "b"
        invocation.reportRead files <| files.foldl
          (fun (outcome : Outcome) path =>
            outcome.append <|
              match invocation.read path with
              | .ok bytes =>
                  .ofBytes (Text.toOctets (kind.line (options.has "tag") isBinary (options.has "z") path
                    bytes))
              | .error errno => invocation.complaint path errno) {}

/-- Writes a line for each file that can be read, which ends with its name if it was given. -/
def sums (invocation : Invocation) (files : List Text) (shown : List UInt8 → Text) : Effect :=
  let isNamed := !files.isEmpty
  let files := orStandardInput files
  invocation.reportRead files <| files.foldl
    (fun (outcome : Outcome) path =>
      outcome.append <|
        match invocation.read path with
        | .ok bytes =>
            let name : Text := if isNamed then ' ' :: path else []
            .ofBytes (Text.toOctets (shown bytes ++ name ++ ['\n']))
        | .error errno => invocation.complaint path errno) {}

/-- A sum of 16 bits and how many blocks of 1024 bytes there are. -/
def turnedLine (bytes : List UInt8) : Text :=
  let digits := Text.ofNat (Digest.turnedSum bytes)
  List.replicate (5 - digits.length) '0' ++ digits ++ [' '] ++
    rightAligned 5 (Text.ofNat ((bytes.length + 1023) / 1024))

def plainLine (bytes : List UInt8) : Text :=
  Text.ofNat (Digest.plainSum bytes) ++ [' '] ++ Text.ofNat ((bytes.length + 511) / 512)

def remainderLine (bytes : List UInt8) : Text :=
  Text.ofNat (Digest.remainder bytes) ++ [' '] ++ Text.ofNat bytes.length

def sum (invocation : Invocation) : Effect :=
  invocation.reading "r s=sysv" 1 fun options =>
    invocation.sums options.operands
      (if options.last? ["r", "s"] = some "s" then plainLine else turnedLine)

def cksum (invocation : Invocation) : Effect :=
  invocation.reading "a:=algorithm =tag =untagged z=zero" 1 fun options =>
    let algorithm := (options.value? "a").getD "crc"
    let name := algorithm ++ "sum"
    match DigestKind.all.find? fun entry => entry.1 = name with
    | some (_, kind) =>
        let files := orStandardInput options.operands
        invocation.reportRead files <| files.foldl
          (fun (outcome : Outcome) path =>
            outcome.append <|
              match invocation.read path with
              | .ok bytes =>
                  .ofBytes (Text.toOctets (kind.line (!options.has "untagged") false
                    (options.has "z") path bytes))
              | .error errno => invocation.complaint path errno) {}
    | none =>
        if algorithm = "crc" then invocation.sums options.operands remainderLine
        else if algorithm = "bsd" then invocation.sums options.operands turnedLine
        else if algorithm = "sysv" then invocation.sums options.operands plainLine
        else
          let names : List Text := ["bsd", "sysv", "crc", "md5", "sha1", "sha224", "sha256", "sha384",
            "sha512", "blake2b", "sm3"]
          let lines := names.flatMap fun name => ("  - " ++ curled name ++ "\n" : Text)
          invocation.misuse ("invalid argument " ++ curled algorithm ++ " for " ++
            curled "--algorithm" ++ "\nValid arguments are:\n" ++ lines.dropLast) 1

end Invocation

/-- A way to write bytes with the characters of an alphabet: how many bits each character stands for,
and in how many of them a group of bytes is written. -/
structure ByteAlphabet where
  letters : Text
  bits : Nat
  group : Nat

namespace ByteAlphabet

def upper : Text :=
  (List.range 26).map fun index => Char.ofNat ('A'.toNat + index)

def base64 : ByteAlphabet :=
  ⟨upper ++ upper.map Char.toLower ++ "0123456789+/", 6, 4⟩

def base32 : ByteAlphabet :=
  ⟨upper ++ "234567", 5, 8⟩

/-- How many bytes a group has. -/
def groupBytes (alphabet : ByteAlphabet) : Nat :=
  alphabet.bits * alphabet.group / 8

/-- How many characters some bytes of a group take. -/
def used (alphabet : ByteAlphabet) (bytes : Nat) : Nat :=
  (8 * bytes + alphabet.bits - 1) / alphabet.bits

def encodeGroup (alphabet : ByteAlphabet) (bytes : List UInt8) : Text :=
  let full := bytes ++ List.replicate (alphabet.groupBytes - bytes.length) 0
  let value := bigEndian full
  let base := Nat.pow 2 alphabet.bits
  let digits := (List.range alphabet.group).map fun place =>
    alphabet.letters.getD (value / Nat.pow base (alphabet.group - 1 - place) % base) '='
  let count := alphabet.used bytes.length
  digits.take count ++ List.replicate (alphabet.group - count) '='

def encode (alphabet : ByteAlphabet) (bytes : List UInt8) : Text :=
  (chunks alphabet.groupBytes (bytes.length + 1) bytes).flatMap alphabet.encodeGroup

/-- The bytes that the characters at the front of a group write, and whether it is one. -/
def decodeGroup (alphabet : ByteAlphabet) (group : Text) : List UInt8 × Bool :=
  let digits := group.takeWhile alphabet.letters.contains
  let base := Nat.pow 2 alphabet.bits
  let filled := digits ++ List.replicate (alphabet.group - digits.length) (alphabet.letters.headD 'A')
  let value := filled.foldl
    (fun (value : Nat) c => base * value + alphabet.letters.findIdx (· = c)) 0
  let count := alphabet.bits * digits.length / 8
  let isWhole := group.length = alphabet.group && (group.drop digits.length).all (· = '=') &&
    alphabet.used count = digits.length && count ≠ 0
  ((bytesOfWord alphabet.groupBytes value).take count, isWhole)

/-- The bytes up to the first group that is none, and whether there is such a group. -/
def decode (alphabet : ByteAlphabet) : List Text → List UInt8 × Bool
  | [] => ([], true)
  | group :: rest =>
      match alphabet.decodeGroup group with
      | (bytes, false) => (bytes, false)
      | (bytes, true) =>
          let (others, isWhole) := decode alphabet rest
          (bytes ++ others, isWhole)

end ByteAlphabet

namespace Invocation

/-- Writes bytes with the characters of an alphabet, or reads them back. -/
def recode (alphabet : ByteAlphabet) (invocation : Invocation) : Effect :=
  invocation.reading "d=decode i=ignore-garbage w:=wrap" 1 fun options =>
    let width? : Option Nat := ((options.value? "w").map count?).getD (some 76)
    match width?, options.operands with
    | none, _ =>
        invocation.refuse ("invalid wrap size: " ++ curled ((options.value? "w").getD [])) 1
    | _, _ :: extra :: _ => invocation.misuse ("extra operand " ++ curled extra) 1
    | some width, operands =>
        let path := operands.headD ['-']
        match invocation.read path with
        | .error .isDirectory => invocation.refuse "read error: Is a directory" 1
        | .error errno => invocation.refuse (shownName path ++ ": " ++ errno.text) 1
        | .ok bytes =>
            let outcome : Outcome :=
              if options.has "d" then
                let text : Text := (bytes.filter (· ≠ 10)).map fun byte => Char.ofNat byte.toNat
                let kept := if options.has "i" then
                    text.filter fun c => c = '=' || alphabet.letters.contains c
                  else text
                let (found, isWhole) :=
                  alphabet.decode (chunks alphabet.group (kept.length + 1) kept)
                if isWhole then .ofBytes found
                else (Outcome.ofBytes found).append
                  (.ofError (invocation.message "invalid input") 1)
              else
                let text := alphabet.encode bytes
                if width = 0 then .ofText text
                else .ofText ((chunks width (text.length + 1) text).flatMap (· ++ ['\n']))
            invocation.reportRead [path] outcome

end Invocation

end AsmLens.Shell
