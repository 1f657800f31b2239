import AsmLens.Shell.Utility.Basic
import AsmLens.Text.Cells

namespace AsmLens.Shell

/-- What `wc` counts in bytes. -/
structure Counts where
  lines : Nat := 0
  words : Nat := 0
  chars : Nat := 0
  bytes : Nat := 0
  longest : Nat := 0

namespace Counts

/-- The columns that a line takes. A tab ends at the next stop, and other control characters take none. -/
def columns (line : Text) : Nat :=
  line.foldl
    (fun column c =>
      if c = '\t' then column + 8 - column % 8
      else if c < ' ' ∨ c = '\x7f' then column
      else column + Text.cellsOf c)
    0

def ofBytes (bytes : List UInt8) : Counts :=
  let text := Text.decode bytes
  let spaced (c : Char) : Char := if "\t\n\r\x0b\x0c".toList.contains c then ' ' else c
  { lines := bytes.count 10
    words := (Text.cut ' ' (text.map spaced)).countP (!·.isEmpty)
    chars := text.length
    bytes := bytes.length
    longest := (((Text.cut '\n' text).map columns).max?).getD 0 }

def add (first second : Counts) : Counts where
  lines := first.lines + second.lines
  words := first.words + second.words
  chars := first.chars + second.chars
  bytes := first.bytes + second.bytes
  longest := max first.longest second.longest

/-- The counts that options ask for, in the order in which they are told. -/
def shown (counts : Counts) (options : Options) : List Nat :=
  let all : List (Text × Nat) := [("l", counts.lines), ("w", counts.words), ("m", counts.chars),
    ("c", counts.bytes), ("L", counts.longest)]
  let asked := all.filter fun entry => options.has entry.1
  if asked.isEmpty then [counts.lines, counts.words, counts.bytes] else asked.map Prod.snd

end Counts

/-- Counts lines, words and bytes. The sizes of all files tell how wide the columns are; where a file has
none, they have the least width. -/
def Invocation.wc (invocation : Invocation) : Effect :=
  invocation.reading "c=bytes m=chars l=lines w=words L=max-line-length :=total :=files0-from" 1
    fun options =>
      let isNameless := options.operands.isEmpty
      let files := orStandardInput options.operands
      let found := files.map fun path =>
        (path, if path.isEmpty then .error Errno.noEntry else invocation.read path)
      let isSized (file : Text × Except Errno (List UInt8)) : Bool :=
        match file.2 with
        | .ok _ => if Invocation.isStandardInput file.1 then invocation.inputIsFile
            else file.1 ≠ "/dev/null"
        | .error errno => errno ≠ .isDirectory
      let counts := found.map fun file => Counts.ofBytes (file.2.toOption.getD [])
      let total := counts.foldl Counts.add {}
      let width :=
        if files.length < 2 ∧ (total.shown options).length < 2 then 1
        else max (if found.all isSized then 1 else 7) (Text.ofNat total.bytes).length
      let row (counts : Counts) (name : Text) : Text :=
        Text.join " " ((counts.shown options).map fun count =>
          rightAligned width (Text.ofNat count)) ++ (if name.isEmpty then [] else ' ' :: name) ++ "\n"
      let rows := found.map fun (path, result) =>
        let name := if isNameless then [] else path
        match result with
        | .ok bytes => Outcome.ofText (row (Counts.ofBytes bytes) name)
        | .error errno =>
            if path.isEmpty then
              .ofError (invocation.message "invalid zero-length file name") 1
            else
              (invocation.complaint path errno).append
                (if errno = .isDirectory then .ofText (row {} name) else {})
      let showsTotal :=
        match options.value? "total" with
        | some choice => choice ≠ "never" && (choice = "always" || 1 < files.length)
        | none => 1 < files.length
      let sum : Outcome := if showsTotal then .ofText (row total "total") else {}
      invocation.reportRead files ((rows.foldl Outcome.append {}).append sum)

end AsmLens.Shell
