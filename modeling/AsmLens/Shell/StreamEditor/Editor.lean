import AsmLens.Shell.StreamEditor.Reader
import AsmLens.Shell.Utility.Basic

namespace AsmLens.Shell

/-- How lines are edited. -/
structure EditStyle where
  script : EditScript
  isSilent : Bool
  isSeparate : Bool
  /-- The endings of names for old files, if files are changed in their places. -/
  backup : Option Text
  followsLinks : Bool
  delimiter : Char
  width : Nat
  /-- Whether input that has not been used can be read again by others. -/
  givesBack : Bool
  /-- How a fault is told that shows only at work. -/
  complain : EditFault → Text
  execute : Execution

/-- A line, and whether it has an end. -/
structure EditLine where
  text : Text := []
  hasEnd : Bool := true

/-- What is known of a range of lines: it has not begun, or it goes on, to some line if that is known, or
it is over. -/
inductive RangeState where
  | inactive
  | active (last : Option Nat)
  | closed

/-- What is written when the line at work is done. -/
inductive Queued where
  | text (text : Text)
  | file (name : Text)
  | bytes (bytes : List UInt8)

/-- An editor at work. What it has written last comes first. -/
structure Editor where
  tree : FileTree
  input : List UInt8
  written : List (Channel × List UInt8) := []
  output : List (List UInt8) := []
  lacksEnd : Bool := false
  files : List Text
  file : Text := ['-']
  lines : List EditLine := []
  changed : Option (List (List UInt8)) := none
  number : Nat := 0
  line : EditLine := {}
  held : EditLine := {}
  queue : List Queued := []
  hasReplaced : Bool := false
  ranges : Array RangeState
  lastPattern : Option EditPattern := none
  readers : List (Text × List (List UInt8)) := []
  lacking : List Text := []
  status : Nat := 0
  halted : Bool := false

namespace Editor

def complain (editor : Editor) (message : Text) (status : Nat) : Editor :=
  { editor with
    written := (.errors, message.encode) :: editor.written
    status := max editor.status status }

def halt (editor : Editor) (message : Text) (status : Nat) : Editor :=
  { editor.complain message status with status, halted := true }

/-- Hands on what has been written to the standard output. -/
def flush (editor : Editor) : Editor :=
  { editor with
    written := (.output, editor.output.reverse.flatten) :: editor.written
    output := [] }

def emit (editor : Editor) (bytes : List UInt8) : Editor :=
  match editor.changed with
  | some changed => { editor with changed := some (bytes :: changed) }
  | none => { editor with output := bytes :: editor.output }

/-- Ends a line that has been written without its end. -/
def endLine (style : EditStyle) (editor : Editor) : Editor :=
  if editor.lacksEnd then { editor.emit (Text.toOctets [style.delimiter]) with lacksEnd := false }
  else editor

def emitText (style : EditStyle) (editor : Editor) (text : Text) : Editor :=
  (editor.endLine style).emit (Text.toOctets text)

def lineBytes (style : EditStyle) (line : EditLine) : List UInt8 :=
  Text.toOctets (if line.hasEnd then line.text ++ [style.delimiter] else line.text)

def emitLine (style : EditStyle) (editor : Editor) (line : EditLine) : Editor :=
  { (editor.endLine style).emit (lineBytes style line) with lacksEnd := !line.hasEnd }

def emitUnlessSilent (style : EditStyle) (editor : Editor) : Editor :=
  if style.isSilent then editor else editor.emitLine style editor.line

/-- Writes a line to a file that the script names. -/
def writeLine (style : EditStyle) (editor : Editor) (name : Text) (line : EditLine) : Editor :=
  let ending : List UInt8 :=
    if editor.lacking.contains name then Text.toOctets [style.delimiter] else []
  let bytes := ending ++ lineBytes style line
  let others := editor.lacking.filter (· ≠ name)
  let editor := { editor with lacking := if line.hasEnd then others else name :: others }
  if name = "/dev/stdout" then { editor with output := bytes :: editor.output }
  else if name = "/dev/stderr" then { editor with written := (.errors, bytes) :: editor.written }
  else
    let old := ((editor.tree.readBytes name).toOption).getD []
    match editor.tree.writeBytes name (old ++ bytes) with
    | .ok tree => { editor with tree }
    | .error _ => editor

def writeQueued (style : EditStyle) (editor : Editor) : Queued → Editor
  | .text text => editor.emitText style text
  | .bytes bytes => (editor.endLine style).emit bytes
  | .file name =>
      if name = "/dev/stdin" then
        { (editor.endLine style).emit editor.input with input := [] }
      else
        match editor.tree.readBytes name with
        | .ok bytes => (editor.endLine style).emit bytes
        | .error _ => editor

def flushQueue (style : EditStyle) (editor : Editor) : Editor :=
  if editor.queue.isEmpty then editor
  else editor.queue.foldl (writeQueued style) { editor.endLine style with queue := [] }

/-- The lines of bytes. -/
def linesOf (delimiter : Char) (bytes : List UInt8) : List EditLine :=
  let pieces := Text.cut delimiter (Text.ofOctets bytes)
  let last := pieces.getLastD []
  (pieces.dropLast.map fun text => ⟨text, true⟩) ++ if last.isEmpty then [] else [⟨last, false⟩]

/-- The name of the file that keeps the old bytes of one that is changed. -/
def backupPath (path ending : Text) : Text :=
  let name := lastName path
  let backup : Text :=
    if ending.contains '*' then ending.flatMap fun c => if c = '*' then name else [c]
    else name ++ ending
  if backup.contains '/' then backup else path.take (path.length - name.length) ++ backup

/-- Puts what has been written in the place of the file that it is made of. -/
def close (style : EditStyle) (editor : Editor) : Editor :=
  match editor.changed with
  | none => editor
  | some changed =>
      let bytes := changed.reverse.flatten
      let ending := style.backup.getD []
      let tree := editor.tree
      let slot (path : Text) : Option Location := (tree.slot? path).toOption.join
      let backedUp : FileTree :=
        match ending, slot editor.file, slot (backupPath editor.file ending) with
        | _ :: _, some location, some other =>
            match tree.get? location with
            | some entry => tree.insert other entry
            | none => tree
        | _, _, _ => tree
      let isExecutable : Bool :=
        match tree.status editor.file with
        | .ok (.file _ isExecutable) => isExecutable
        | _ => false
      let renewed : FileTree :=
        if style.followsLinks then ((backedUp.writeBytes editor.file bytes).toOption).getD backedUp
        else
          match slot editor.file with
          | some location => backedUp.insert location (.file bytes isExecutable)
          | none => backedUp
      { editor with tree := renewed, changed := none, lacksEnd := false }

/-- Opens a file for its lines, or only to see whether it has any. -/
def openFile (style : EditStyle) (isGlance : Bool) (editor : Editor) (name : Text) : Editor :=
  let start (editor : Editor) (bytes : List UInt8) : Editor :=
    let opened := { editor with file := name, lines := linesOf style.delimiter bytes }
    if style.isSeparate then
      let unchanged := opened.endLine style
      { unchanged with
        number := 0
        held := {}
        readers := []
        ranges := style.script.commands.map initial
        changed := style.backup.map fun _ => [] }
    else opened
  if style.backup.isNone ∧ Invocation.isStandardInput name then
    start { editor with input := [] } editor.input
  else
    match editor.tree.readBytes name with
    | .ok bytes => start editor bytes
    | .error .isDirectory =>
        if isGlance then editor
        else
          editor.halt
            (if style.backup.isSome then "sed: couldn't edit " ++ name ++ ": not a regular file\n"
              else "sed: read error on " ++ name ++ ": Is a directory\n")
            4
    | .error errno =>
        editor.complain ("sed: can't read " ++ name ++ ": " ++ errno.text ++ "\n") 2
where
  initial (command : EditCommand) : RangeState :=
    match command.selector with
    | .range (.number 0) _ => .active none
    | _ => .inactive

/-- Opens files until one has lines. -/
def openFrom (style : EditStyle) (isGlance : Bool) : List Text → Editor → Editor
  | [], editor => { editor.close style with files := [] }
  | name :: rest, editor =>
      let opened := { editor.close style with files := rest }.openFile style isGlance name
      if opened.halted || !opened.lines.isEmpty then opened
      else openFrom style isGlance rest opened

/-- Whether the line at work is the last one. To know it, the next file is opened. -/
def isLast (style : EditStyle) (editor : Editor) : Bool × Editor :=
  if !editor.lines.isEmpty then (false, editor)
  else if style.isSeparate then (true, editor)
  else
    let opened := editor.openFrom style true editor.files
    (opened.lines.isEmpty, opened)

/-- Takes the next line, if there is one. -/
def readLine (style : EditStyle) (editor : Editor) : Option EditLine × Editor :=
  let flushed := editor.flushQueue style
  let ready := if flushed.lines.isEmpty then flushed.openFrom style false flushed.files else flushed
  match ready.lines with
  | [] => (none, ready)
  | line :: lines =>
      (some line, { ready with lines, number := ready.number + 1, hasReplaced := false })

/-- The expression of a pattern, which becomes the last one that was used. -/
def usePattern (style : EditStyle) (editor : Editor) (pattern : EditPattern) :
    Option (Regex × Matching) × Editor :=
  let used? := if pattern.regex.isSome then some pattern else editor.lastPattern
  match used? with
  | some ⟨some regex, matching⟩ =>
      (some (regex, matching), { editor with lastPattern := some ⟨some regex, matching⟩ })
  | _ => (none, editor.halt (style.complain .noPattern) 1)

def passes (style : EditStyle) (editor : Editor) : LineTest → Bool × Editor
  | .number number => (editor.number = number, editor)
  | .every first step =>
      (first ≤ editor.number && (editor.number - first) % step = 0, editor)
  | .last => editor.isLast style
  | .finds pattern =>
      match editor.usePattern style pattern with
      | (some (regex, matching), editor) => (regex.isIn matching editor.line.text, editor)
      | (none, editor) => (false, editor)

def setRange (editor : Editor) (index : Nat) (state : RangeState) : Editor :=
  { editor with ranges := editor.ranges.setIfInBounds index state }

/-- Begins a range with the line at work. -/
def beginRange (style : EditStyle) (editor : Editor) (index : Nat) (ending : RangeEnd) : Editor :=
  let upTo (last : Nat) : Editor :=
    editor.setRange index (if last ≤ editor.number then .closed else .active (some last))
  match ending with
  | .number line => upTo line
  | .after count => upTo (editor.number + count)
  | .multiple factor =>
      upTo (if factor = 0 then 0 else (editor.number / factor + 1) * factor)
  | .test .last =>
      let (isLast, editor) := editor.isLast style
      editor.setRange index (if isLast then .closed else .active none)
  | .test _ => editor.setRange index (.active none)

/-- Whether a range has the line at work. -/
def isInRange (style : EditStyle) (editor : Editor) (index : Nat) (first : LineTest)
    (ending : RangeEnd) : Bool × Editor :=
  match (editor.ranges[index]?).getD .inactive, first with
  | .active none, _ =>
      match ending with
      | .test test =>
          let (isEnd, editor) := editor.passes style test
          (true, if isEnd then editor.setRange index .closed else editor)
      | _ => (true, editor)
  | .active (some last), _ =>
      let after :=
        if last ≤ editor.number then editor.setRange index .closed else editor
      let isNumber : Bool :=
        match ending with
        | .number _ => true
        | _ => false
      (!isNumber || editor.number ≤ last, after)
  | .closed, .number _ => (false, editor)
  | _, .number start =>
      if editor.number < start then (false, editor)
      else
        let isOver : Bool :=
          match ending with
          | .number last => last < editor.number
          | _ => false
        if isOver then (editor.number = start, editor.setRange index .closed)
        else (true, editor.beginRange style index ending)
  | _, first =>
      match editor.passes style first with
      | (true, editor) => (true, editor.beginRange style index ending)
      | (false, editor) => (false, editor)

def isSelected (style : EditStyle) (editor : Editor) (index : Nat) : Selector → Bool × Editor
  | .all => (true, editor)
  | .one test => editor.passes style test
  | .range first ending => editor.isInRange style index first ending

end Editor

end AsmLens.Shell
