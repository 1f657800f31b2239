import AsmLens.FileTree.Resolve
import AsmLens.Shell.Condition
import AsmLens.Shell.Escape
import AsmLens.Shell.Format
import AsmLens.Shell.Utility.Basic

namespace AsmLens.Shell

/-- The name without a suffix, unless nothing else is left of it. -/
def withoutSuffix (suffix name : Text) : Text :=
  let kept := name.take (name.length - suffix.length)
  if suffix.isSuffixOf name ∧ kept ≠ [] then kept else name

/-- The path of the directory that a path lies in. -/
def directoryName (path : Text) : Text :=
  let names := (Text.cut '/' path).filter (· ≠ [])
  let root : Text := if path.head? = some '/' then "/" else []
  let above := root ++ Text.join "/" names.dropLast
  if above.isEmpty then ['.'] else above

/-- How much of a path has to be there to be told without links. -/
inductive Presence where
  | all
  | allButLast
  | nothing
  deriving DecidableEq

/-- The absolute path without links that a path leads to. -/
def canonical (tree : FileTree) (presence : Presence) (path : Text) : Except Errno Text :=
  if path.isEmpty then .error .noEntry
  else
    match presence, tree.locate .lookup path with
    | .nothing, .error _ | .nothing, .ok _ =>
        match tree.resolve (Path.ofText path) with
        | .ok resolved => .ok resolved.toText
        | .error _ => .error .tooManyLinks
    | .all, .ok location =>
        if (tree.get? location).isSome then .ok (FileTree.absolute location) else .error .noEntry
    | .allButLast, .ok location => .ok (FileTree.absolute location)
    | _, .error errno => .error errno

/-- The path of a place as it is seen from a directory. -/
def relativePath (directory target : Text) : Text :=
  let names (path : Text) : List Text := (Text.cut '/' path).filter (· ≠ [])
  let isShared (pair : Text × Text) : Bool := pair.1 = pair.2
  let shared := (((names directory).zip (names target)).takeWhile isShared).length
  let up : List Text := List.replicate ((names directory).length - shared) ['.', '.']
  let path := Text.join "/" (up ++ (names target).drop shared)
  if path.isEmpty then ['.'] else path

namespace Invocation

def basename (invocation : Invocation) : Effect :=
  match Options.read (OptionForm.table "a=multiple s:=suffix z=zero") true {}
    invocation.arguments with
  | .error error => invocation.misuse error.message 1
  | .ok options =>
      let ending : Text := if options.has "z" then ['\x00'] else "\n"
      let write (names : List Text) : Effect :=
        invocation.report (.ofText (names.flatMap (· ++ ending)))
      match options.operands with
      | [] => invocation.misuse "missing operand" 1
      | path :: others =>
          if options.has "a" ∨ options.has "s" then
            let suffix := (options.value? "s").getD []
            write ((path :: others).map fun path => withoutSuffix suffix (lastName path))
          else
            match others with
            | [] => write [lastName path]
            | [suffix] => write [withoutSuffix suffix (lastName path)]
            | _ :: extra :: _ => invocation.misuse ("extra operand " ++ curled extra) 1

def dirname (invocation : Invocation) : Effect :=
  invocation.reading "z=zero" 1 fun options =>
    let ending : Text := if options.has "z" then ['\x00'] else "\n"
    if options.operands.isEmpty then invocation.misuse "missing operand" 1
    else
      invocation.report <| .ofText <| options.operands.flatMap fun path =>
        directoryName path ++ ending

def presenceOf (options : Options) : Option Presence :=
  (options.last? ["f", "e", "m"]).map fun key =>
    if key = ['e'] then .all else if key = ['m'] then .nothing else .allButLast

/-- Writes where links lead. Complaints are made only if they are asked for. -/
def readlink (invocation : Invocation) : Effect :=
  invocation.reading ("f=canonicalize e=canonicalize-existing m=canonicalize-missing n=no-newline " ++
    "q=quiet s=silent v=verbose z=zero") 1 fun options =>
    let separator : Text := if options.has "z" then ['\x00'] else "\n"
    let ending : Text :=
      if options.has "n" ∧ options.operands.length = 1 then [] else separator
    let target (path : Text) : Except Text Text :=
      match presenceOf options with
      | some presence => (canonical invocation.tree presence path).mapError Errno.text
      | none =>
          match Condition.entryItself? invocation.tree path with
          | some (.link target) => .ok target
          | some _ => .error "Invalid argument"
          | none =>
              match invocation.tree.status path with
              | .error errno => .error errno.text
              | .ok _ => .error "Invalid argument"
    if options.operands.isEmpty then invocation.misuse "missing operand" 1
    else
      invocation.report <| options.operands.foldl
        (fun (outcome : Outcome) path =>
          outcome.append <|
            match target path with
            | .ok text => .ofText (text ++ ending)
            | .error reason =>
                if options.has "v" then .ofError (invocation.message (shownName path ++ ": " ++ reason)) 1
                else .ofStatus 1)
        {}

def realpath (invocation : Invocation) : Effect :=
  invocation.reading ("e=canonicalize-existing m=canonicalize-missing L=logical P=physical q=quiet " ++
    "s=strip,no-symlinks z=zero :=relative-to :=relative-base") 1 fun options =>
    let presence := (presenceOf options).getD .allButLast
    let ending : Text := if options.has "z" then ['\x00'] else "\n"
    let shown (path : Text) : Except Errno Text := do
      let absolute ←
        if options.has "s" ∧ path ≠ [] then
          let directory := Path.ofText (FileTree.absolute invocation.tree.workingDirectory)
          Except.ok (directory.append (Path.ofText path)).collapse.toText
        else
          canonical invocation.tree presence path
      match options.value? "relative-to" with
      | none => .ok absolute
      | some directory =>
          let directory ← canonical invocation.tree presence directory
          .ok (relativePath directory absolute)
    if options.operands.isEmpty then invocation.misuse "missing operand" 1
    else
      invocation.report <| options.operands.foldl
        (fun (outcome : Outcome) path =>
          outcome.append <|
            match shown path with
            | .ok text => .ofText (text ++ ending)
            | .error errno =>
                if options.has "q" then .ofStatus 1 else invocation.complaint path errno)
        {}

end Invocation

/-- What `stat` tells about a file: the letter of its kind, its permissions, and its size. -/
structure FileFacts where
  kind : Text
  letter : Char
  typeBits : Nat
  permissions : Nat
  size : Nat
  target : Option Text

namespace FileFacts

/-- How many bytes a directory takes. -/
def directorySize : Nat := 4096

def ofEntry : Entry → FileFacts
  | .file bytes executable =>
      ⟨if bytes.isEmpty then "regular empty file" else "regular file", '-', 0o100000,
        if executable then 0o755 else 0o644, bytes.length, none⟩
  | .directory => ⟨"directory", 'd', 0o040000, 0o755, directorySize, none⟩
  | .link target => ⟨"symbolic link", 'l', 0o120000, 0o777, target.byteLength, some target⟩

/-- The permissions with a letter for each. -/
def rights (facts : FileFacts) : Text :=
  facts.letter :: (List.range 9).map fun index =>
    if facts.permissions / Nat.pow 2 (8 - index) % 2 = 1 then
      ("rwx".toList).getD (index % 3) '-'
    else
      '-'

/-- What a letter in a format stands for. -/
def field (facts : FileFacts) (path : Text) (letter : Char) : Text :=
  match letter with
  | 'n' => path
  | 'N' =>
      quotedWord path ++
        match facts.target with
        | some target => " -> " ++ quotedWord target
        | none => []
  | 's' => Text.ofNat facts.size
  | 'F' => facts.kind
  | 'a' => Nat.toDigits 8 facts.permissions
  | 'A' => facts.rights
  | 'f' => Nat.toDigits 16 (facts.typeBits + facts.permissions)
  | 'h' => "1"
  | 'u' | 'g' | 't' | 'T' => "0"
  | 'U' | 'G' => "root"
  | 'b' => Text.ofNat ((facts.size + 4095) / 4096 * 8)
  | 'B' => "512"
  | 'o' => "4096"
  | '%' => "%"
  | _ => "?"

/-- The text of a format, for which as many steps are allowed. Escapes are read only where the format
says so. -/
def write (facts : FileFacts) (path : Text) (readsEscapes : Bool) : Nat → Text → List UInt8
  | 0, _ => []
  | _, [] => []
  | steps + 1, c :: rest =>
      if c = '%' then
        let flags := rest.takeWhile "#-+ 0'".toList.contains
        let (width, afterWidth) := FormatPart.measurement (rest.drop flags.length)
        let (precision, rest) : Option Nat × Text :=
          match afterWidth with
          | '.' :: digits =>
              let shown := digits.takeWhile Char.isDigit
              (count? shown, digits.drop shown.length)
          | rest => (none, rest)
        match rest with
        | [] => [37]
        | letter :: rest =>
            let text := facts.field path letter
            let isNumber := "sahugbBoftT".toList.contains letter
            let width : Int := match width with | .fixed columns => columns | .argument => 0
            let shown :=
              if isNumber then Formatter.number flags width (precision.map Int.ofNat) [] text
              else Formatter.pad flags width (Text.encode (text.take (precision.getD text.length)))
            shown ++ write facts path readsEscapes steps rest
      else if c = '\\' ∧ readsEscapes then
        match (FormatPart.escapes .program).read rest with
        | (.bytes bytes, rest) => bytes ++ write facts path readsEscapes steps rest
        | (_, rest) => write facts path readsEscapes steps rest
      else
        Text.encodeChar c ++ write facts path readsEscapes steps rest

end FileFacts

def Invocation.stat (invocation : Invocation) : Effect :=
  invocation.reading "L=dereference f=file-system c:=format :=printf t=terse :=cached" 1
    fun options =>
      let (format, isPlain) : Text × Bool :=
        match options.value? "c", options.value? "printf" with
        | some format, _ => (format, true)
        | none, some format => (format, false)
        | none, none => ("%n %s %b %f %u %g", true)
      let write (path : Text) : Outcome :=
        let entry : Except Errno Entry :=
          match (if options.has "L" then none else Condition.entryItself? invocation.tree path) with
          | some entry => .ok entry
          | none => invocation.tree.status path
        match entry with
        | .ok entry =>
            let facts := FileFacts.ofEntry entry
            .ofBytes (facts.write path (!isPlain) (format.length + 1) format ++
              if isPlain then [10] else [])
        | .error errno =>
            .ofError (invocation.message
              ("cannot statx " ++ quotedWord path ++ ": " ++ errno.text)) 1
      if options.operands.isEmpty then invocation.misuse "missing operand" 1
      else
        invocation.report <| options.operands.foldl
          (fun (outcome : Outcome) path => outcome.append (write path)) {}

end AsmLens.Shell
