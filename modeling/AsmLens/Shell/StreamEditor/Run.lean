import AsmLens.Shell.StreamEditor.Editor

namespace AsmLens.Shell

/-- How an editor goes on after a command. -/
inductive EditStep where
  | proceed
  | jump (place : Nat)
  /-- Starts again with what is left of the line. -/
  | restart
  | finish (prints : Bool)
  | stop (status : Nat)

namespace Editor

/-- The bytes of a line as they are shown with escapes, in lines of some width if it is not zero. -/
def listed (style : EditStyle) (width : Nat) (text : Text) : Text :=
  let pieces : List Text := (Text.toOctets text).map shown
  let folded := pieces.foldl
    (fun (before : Text × Nat) piece =>
      let isFull := width ≠ 0 && width - 1 < before.2 + piece.length
      (piece.reverse ++ (if isFull then [style.delimiter, '\\'] else []) ++ before.1,
        if isFull then piece.length else before.2 + piece.length))
    ([], 0)
  folded.1.reverse ++ "$"
where
  shown (byte : UInt8) : Text :=
    let value := byte.toNat
    let octal : Text :=
      ['\\', Nat.digitChar (value / 64), Nat.digitChar (value / 8 % 8), Nat.digitChar (value % 8)]
    let c := Char.ofNat value
    if c = '\\' then "\\\\"
    else if ' ' ≤ c ∧ c ≤ '~' then [c]
    else
      match value with
      | 7 => "\\a"
      | 8 => "\\b"
      | 9 => "\\t"
      | 10 => "\\n"
      | 11 => "\\v"
      | 12 => "\\f"
      | 13 => "\\r"
      | _ => octal

/-- Lets a shell do a command. Gives what it writes. -/
def shell (style : EditStyle) (editor : Editor) (command : Text) : List UInt8 × Editor :=
  match style.execute ["sh", "-c", command] editor.tree editor.input with
  | .error _ => ([], editor)
  | .ok effect =>
      let errors := effect.outcome.written.filter fun part => part.1 = .errors
      let output := effect.outcome.written.flatMap fun part =>
        if part.1 = .output then part.2 else []
      (output, { editor with
        tree := effect.tree
        input := effect.input
        written := errors.reverse ++ editor.written })

/-- Puts what the line at work writes as a command in its place. -/
def shellLine (style : EditStyle) (editor : Editor) : Editor :=
  let (output, editor) := editor.shell style editor.line.text
  let text := Text.ofOctets output
  let bare := if text.getLast? = some style.delimiter then text.dropLast else text
  { editor with line := { editor.line with text := bare } }

/-- The part of a text before its first line end, and what is behind it if there is one. -/
def firstLine (style : EditStyle) (text : Text) : Text × Option Text :=
  match text.dropWhile (· ≠ style.delimiter) with
  | [] => (text, none)
  | _ :: rest => (text.takeWhile (· ≠ style.delimiter), some rest)

/-- The first line of the line at work. -/
def leadingLine (style : EditStyle) (editor : Editor) : EditLine :=
  match firstLine style editor.line.text with
  | (text, some _) => ⟨text, true⟩
  | (_, none) => editor.line

def appended (style : EditStyle) (line other : EditLine) : EditLine :=
  ⟨line.text ++ style.delimiter :: other.text, other.hasEnd⟩

def substitute (style : EditStyle) (editor : Editor) (substitution : Substitution) : Editor :=
  match editor.usePattern style substitution.pattern with
  | (none, editor) => editor
  | (some (regex, matching), editor) =>
      let groups := Substitution.groupCount substitution.replacement
      if regex.groupCount < groups then editor.halt (style.complain (.missingGroup groups)) 1
      else
        let used := { substitution with pattern := ⟨some regex, matching⟩ }
        match used.replace? regex editor.line.text with
        | none => editor
        | some text =>
            let replaced := { editor with
              line := { editor.line with text }
              hasReplaced := true }
            let shownBefore :=
              if substitution.printsBefore then replaced.emitLine style replaced.line else replaced
            let executed :=
              if substitution.executes then shownBefore.shellLine style else shownBefore
            let shown :=
              if substitution.prints then executed.emitLine style executed.line else executed
            match substitution.file with
            | some name => shown.writeLine style name shown.line
            | none => shown

def transliterate (pairs : List (Char × Char)) (text : Text) : Text :=
  text.map fun c => ((pairs.find? fun pair => pair.1 = c).map Prod.snd).getD c

/-- Takes a line of a file that the script reads line by line. -/
def queueLine (style : EditStyle) (editor : Editor) (name : Text) : Editor :=
  let lines : List (List UInt8) :=
    match editor.readers.find? fun reader => reader.1 = name with
    | some reader => reader.2
    | none =>
        let bytes := ((editor.tree.readBytes name).toOption).getD []
        (linesOf style.delimiter bytes).map (lineBytes style)
  let readers := editor.readers.filter fun reader => reader.1 ≠ name
  match lines with
  | [] => { editor with readers := (name, []) :: readers }
  | line :: rest =>
      { editor with readers := (name, rest) :: readers, queue := editor.queue ++ [.bytes line] }

/-- Text as it is inserted: its last line ends like all others. -/
def ended (style : EditStyle) (text : Text) : Text :=
  if text.getLast? = some '\n' then text.dropLast ++ [style.delimiter] else text

def perform (style : EditStyle) (editor : Editor) (index : Nat) : EditAction → Editor × EditStep
  | .block _ | .nothing => (editor, .proceed)
  | .append text => ({ editor with queue := editor.queue ++ [.text text] }, .proceed)
  | .insert text => (editor.emitText style (ended style text), .proceed)
  | .change text =>
      let isInside : Bool :=
        match editor.ranges[index]? with
        | some (.active _) => true
        | _ => false
      (if isInside then editor else editor.emitText style (ended style text), .finish false)
  | .branch condition label =>
      let place := style.script.place label
      match condition with
      | .always => (editor, .jump place)
      | .replaced =>
          if editor.hasReplaced then ({ editor with hasReplaced := false }, .jump place)
          else (editor, .proceed)
      | .notReplaced =>
          if editor.hasReplaced then ({ editor with hasReplaced := false }, .proceed)
          else (editor, .jump place)
  | .delete => (editor, .finish false)
  | .deleteFirst =>
      match firstLine style editor.line.text with
      | (_, none) => (editor, .finish false)
      | (_, some rest) => ({ editor with line := { editor.line with text := rest } }, .restart)
  | .print => (editor.emitLine style editor.line, .proceed)
  | .printFirst => (editor.emitLine style (editor.leadingLine style), .proceed)
  | .next =>
      match editor.isLast style with
      | (true, editor) => (editor, .finish true)
      | (false, editor) =>
          match (editor.emitUnlessSilent style).readLine style with
          | (some line, editor) => ({ editor with line }, .proceed)
          | (none, editor) => (editor, .finish false)
  | .nextAppended =>
      match editor.isLast style with
      | (true, editor) => (editor, .finish true)
      | (false, editor) =>
          match editor.readLine style with
          | (some line, editor) =>
              ({ editor with line := appended style editor.line line }, .proceed)
          | (none, editor) => (editor, .finish true)
  | .hold => ({ editor with held := editor.line }, .proceed)
  | .holdAppended => ({ editor with held := appended style editor.held editor.line }, .proceed)
  | .recall => ({ editor with line := editor.held }, .proceed)
  | .recallAppended => ({ editor with line := appended style editor.line editor.held }, .proceed)
  | .exchange => ({ editor with line := editor.held, held := editor.line }, .proceed)
  | .list width =>
      (editor.emitText style
        (listed style (width.getD style.width) editor.line.text ++ [style.delimiter]), .proceed)
  | .lineNumber =>
      (editor.emitText style (Text.ofNat editor.number ++ [style.delimiter]), .proceed)
  | .fileName => (editor.emitText style (editor.file ++ [style.delimiter]), .proceed)
  | .quit status =>
      let shown := (editor.emitUnlessSilent style).endLine style
      (shown.flushQueue style, .stop status)
  | .quitSilently status => (editor, .stop status)
  | .readFile name => ({ editor with queue := editor.queue ++ [.file name] }, .proceed)
  | .insertFile name => (editor.writeQueued style (.file name), .proceed)
  | .readLine name => (editor.queueLine style name, .proceed)
  | .writeFile name => (editor.writeLine style name editor.line, .proceed)
  | .writeFirst name => (editor.writeLine style name (editor.leadingLine style), .proceed)
  | .execute command =>
      if command.isEmpty then
        let done := editor.shellLine style
        ({ done with line := { done.line with hasEnd := true } }, .proceed)
      else
        let (output, editor) := (editor.endLine style).shell style command
        (editor.emit output, .proceed)
  | .clear => ({ editor with line := { editor.line with text := [] } }, .proceed)
  | .substitute substitution => (editor.substitute style substitution, .proceed)
  | .transliterate pairs =>
      ({ editor with
        line := { editor.line with text := transliterate pairs editor.line.text } }, .proceed)

/-- Goes through the commands from some place on, line after line. As many steps are allowed. -/
def run (style : EditStyle) : Nat → Nat → Editor → Editor
  | 0, _, editor => editor
  | steps + 1, index, editor =>
      if editor.halted then editor
      else
        let nextLine (editor : Editor) : Editor :=
          match editor.readLine style with
          | (some line, editor) => run style steps 0 { editor with line }
          | (none, editor) => editor
        match style.script.commands[index]? with
        | none => nextLine (editor.emitUnlessSilent style)
        | some command =>
            let (isIn, editor) := editor.isSelected style index command.selector
            if editor.halted then editor
            else if isIn = command.isNegated then
              match command.action with
              | .block ending => run style steps ending editor
              | _ => run style steps (index + 1) editor
            else
              match editor.perform style index command.action with
              | (editor, .proceed) => run style steps (index + 1) editor
              | (editor, .jump place) => run style steps place editor
              | (editor, .restart) => run style steps 0 (editor.flushQueue style)
              | (editor, .finish prints) =>
                  nextLine (if prints then editor.emitUnlessSilent style else editor)
              | (editor, .stop status) =>
                  if editor.status = 0 then { editor with status } else editor

/-- Edits all lines of all files. -/
def edit (style : EditStyle) (editor : Editor) : Editor :=
  match editor.readLine style with
  | (some line, editor) => run style 10000000 0 { editor with line }
  | (none, editor) => editor

/-- What is left behind. -/
def effect (style : EditStyle) (editor : Editor) : Effect :=
  let closed := (if editor.halted then editor else editor.close style).flush
  let unread : List UInt8 :=
    if style.givesBack ∧ Invocation.isStandardInput closed.file then
      closed.lines.flatMap (lineBytes style) ++ closed.input
    else closed.input
  ⟨closed.tree, unread, ⟨closed.written.reverse, closed.status % 256⟩⟩

end Editor

/-- A script that is being read, how many parts of it were words, and the input that is left. -/
structure EditSetup where
  reader : EditReader
  words : Nat
  input : List UInt8

namespace EditSetup

/-- Reads one more part of a script, or tells what is wrong. -/
def add (tree : FileTree) (setup : EditSetup) (option : Text × Text) :
    Except EditRefusal EditSetup :=
  let (key, value) := option
  let bytesOf (name : Text) (bytes : List UInt8) (input : List UInt8) :
      Except EditRefusal EditSetup :=
    (setup.reader.part (.file name) (Text.ofOctets bytes)).map fun reader =>
      { setup with reader, input }
  if key = "e" then
    (setup.reader.part (.expression (setup.words + 1)) value).map fun reader =>
      { setup with reader, words := setup.words + 1 }
  else if key = "f" then
    if Invocation.isStandardInput value then bytesOf value setup.input []
    else
      match tree.readBytes value with
      | .ok bytes => bytesOf value bytes setup.input
      | .error .isDirectory =>
          .error (setup.reader.refusal ("sed: read error on " ++ value ++ ": Is a directory\n") 4)
      | .error errno =>
          .error <| setup.reader.refusal
            ("sed: couldn't open file " ++ value ++ ": " ++ errno.text ++ "\n") 4
  else if key = "E" ∨ key = "r" then
    .ok { setup with reader := { setup.reader with style := .extended } }
  else .ok setup

/-- Makes the files that a script writes, up to one that cannot be made, and tells about that. -/
def makeOutputs : FileTree → List Text → FileTree × Option Text
  | tree, [] => (tree, none)
  | tree, name :: rest =>
      if name = "/dev/stdout" ∨ name = "/dev/stderr" then makeOutputs tree rest
      else
        match tree.writeBytes name [] with
        | .ok tree => makeOutputs tree rest
        | .error errno =>
            (tree, some ("sed: couldn't open file " ++ name ++ ": " ++ errno.text ++ "\n"))

end EditSetup

namespace Invocation

def editUsage : Text :=
  "Usage: sed \x5bOPTION\x5d... \x7bscript-only-if-no-other-script\x7d \x5binput-file\x5d...\n\n"

/-- Edits lines by a script. -/
def sed (invocation : Invocation) : Effect :=
  let table := OptionForm.table <|
    "n=quiet,silent e:=expression f:=file E=regexp-extended r i::=in-place l:=line-length " ++
    "s=separate u=unbuffered z=null-data,zero-terminated =posix =follow-symlinks b=binary"
  match Options.read table false {} invocation.arguments with
  | .error error => invocation.report (.ofError ("sed: " ++ error.message ++ "\n" ++ editUsage) 1)
  | .ok options =>
      let isGiven := options.has "e" || options.has "f"
      match isGiven, options.operands with
      | false, [] => invocation.report (.ofError editUsage 1)
      | _, operands =>
          let parts := options.found ++ if isGiven then [] else [(['e'], operands.headD [])]
          let files := if isGiven then operands else operands.tail
          let reader : EditReader := ⟨.expression 1, [], [], .strict, true, {}, [], [], none⟩
          let script : Except EditRefusal (EditSetup × EditScript) := do
            let setup ← parts.foldlM (EditSetup.add invocation.tree) ⟨reader, 0, invocation.input⟩
            return (setup, ← setup.reader.complete)
          let outputs : List Text :=
            match script with
            | .ok (_, script) => script.outputs
            | .error refusal => refusal.outputs
          let refuse (tree : FileTree) (message : Text) (status : Nat) : Effect :=
            { invocation.report (.ofError message status) with tree }
          match EditSetup.makeOutputs invocation.tree outputs, script with
          | (tree, some message), _ => refuse tree message 4
          | (tree, none), .error refusal => refuse tree refusal.message refusal.status
          | (tree, none), .ok (setup, script) =>
              if options.has "i" ∧ files.isEmpty then refuse tree "sed: no input files\n" 4
              else
                let style : EditStyle := {
                  script
                  isSilent := options.has "n" || script.isSilent
                  isSeparate := options.has "s" || options.has "i"
                  backup := options.value? "i"
                  followsLinks := options.has "follow-symlinks"
                  delimiter := if options.has "z" then '\x00' else '\n'
                  width := ((options.value? "l").map fun word =>
                    (Text.readNat? (word.takeWhile Char.isDigit)).getD 0).getD 70
                  givesBack := invocation.inputIsFile || options.has "u"
                  complain := setup.reader.source.complain 0 setup.reader.line
                  execute := invocation.execute }
                let editor : Editor := {
                  tree
                  input := setup.input
                  files := orStandardInput files
                  ranges := script.commands.map Editor.openFile.initial }
                (editor.edit style).effect style

end Invocation

end AsmLens.Shell
