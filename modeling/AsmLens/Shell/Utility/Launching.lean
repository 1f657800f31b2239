import AsmLens.Shell.Signal
import AsmLens.Shell.Utility.Basic
import AsmLens.Shell.Utility.Writing
import AsmLens.Text.Octets

namespace AsmLens.Shell

/-- The status for a program that cannot be started. -/
def Errno.startStatus (errno : Errno) : Nat :=
  if errno = .noEntry then 127 else 126

namespace Invocation

/-- Runs a program in place of the one at work. One that cannot be started is told of by its name as it
is to be shown. -/
def become (invocation : Invocation) (words : List Text) (shown : Text → Text) : Effect :=
  match invocation.execute words invocation.tree invocation.input with
  | .ok effect => effect
  | .error errno =>
      invocation.refuse (shown (words.headD []) ++ ": " ++ errno.text)
        (Errno.startStatus errno)

/-- Runs a program at another priority, which nothing depends on. -/
def nice (invocation : Invocation) : Effect :=
  let arguments : List Text :=
    match invocation.arguments with
    | ('-' :: digits) :: rest =>
        let bare : Text := if digits.head? = some '-' ∨ digits.head? = some '+' then digits.tail
          else digits
        if (count? bare).isSome then ['-', 'n'] :: digits :: rest else ('-' :: digits) :: rest
    | words => words
  match Options.read (OptionForm.table "n:=adjustment") true {} arguments with
  | .error error => invocation.misuse error.message 125
  | .ok options =>
      let isNumber (word : Text) : Bool :=
        (count? (if word.head? = some '-' ∨ word.head? = some '+' then word.tail else word)).isSome
      match (options.values "n").find? (fun word => !isNumber word), options.operands with
      | some word, _ => invocation.refuse ("invalid adjustment " ++ curled word) 125
      | none, [] =>
          if options.has "n" then
            invocation.misuse "a command must be given with an adjustment" 125
          else invocation.report (.ofText "0\n")
      | none, words => invocation.become words curled

/-- Runs a program that goes on when the terminal is gone. -/
def nohup (invocation : Invocation) : Effect :=
  match Options.read [] true {} invocation.arguments with
  | .error error => invocation.misuse error.message 125
  | .ok options =>
      if options.operands.isEmpty then invocation.misuse "missing operand" 125
      else invocation.become options.operands fun name => "failed to run command " ++ quotedWord name

/-- How many thousandths of a second a word tells. -/
def thousandths (word : Text) : Nat :=
  match Real.leadingDigits 10 word with
  | none => 0
  | some (value, places, rest) =>
      let unit : Nat :=
        match rest with
        | ['m'] => 60
        | ['h'] => 3600
        | ['d'] => 86400
        | _ => 1
      value * unit * 1000 / Nat.pow 10 places

/-- Runs a program for some time. It is over in no time unless it is one that waits. -/
def timeout (invocation : Invocation) : Effect :=
  let table := OptionForm.table
    "k:=kill-after s:=signal v=verbose =foreground =preserve-status"
  match Options.read table true {} invocation.arguments with
  | .error error => invocation.misuse error.message 125
  | .ok options =>
      let signalName := (options.value? "s").getD "TERM"
      match Signal.number? signalName, options.operands with
      | none, _ => invocation.misuse (curled signalName ++ ": invalid signal") 125
      | _, [] | _, [_] => invocation.report (.ofError invocation.hint 125)
      | some signal, duration :: words =>
          if !isDuration duration then
            invocation.misuse ("invalid time interval " ++ curled duration) 125
          else
            let limit := thousandths duration
            let name := words.headD []
            let pause := words.tail.foldl (fun total word => total + thousandths word) 0
            let isLong := lastName name = "sleep" && words.tail.all isDuration && limit < pause
            if isLong && limit ≠ 0 then
              let message : Text :=
                if options.has "v" then
                  invocation.message ("sending signal " ++ signalName ++ " to command " ++ curled name)
                else []
              let status : Nat :=
                if options.has "preserve-status" || signal = 9 then 128 + signal else 124
              invocation.report (.ofError message status)
            else invocation.become words fun name => "failed to run command " ++ curled name

end Invocation

/-- How the items that become arguments are told apart. -/
structure ItemStyle where
  delimiter : Option Char
  ending : Option Text
  /-- The word in whose place an item is put. -/
  mark : Option Text
  most : Option Nat
  lines : Option Nat
  size : Nat

namespace ItemStyle

/-- The items of a text, each with whether it ends a line. Blanks stand between them or only before
them, and quotes keep them together. An open quote and an item that has begun are held. -/
def scan (isWhole : Bool) : Option Char → Option Text → Text → Except Text (List (Text × Bool))
  | some quote, _, [] => .error (unmatched quote)
  | none, held, [] => .ok (held.toList.map fun item => (item.reverse, true))
  | some quote, held, c :: rest =>
      if c = quote then scan isWhole none held rest
      else if c = '\n' then .error (unmatched quote)
      else scan isWhole (some quote) (some (c :: held.getD [])) rest
  | none, held, '\\' :: c :: rest => scan isWhole none (some (c :: held.getD [])) rest
  | none, held, '\n' :: rest => do
      let items ← scan isWhole none none rest
      .ok (held.toList.map (fun item => (item.reverse, true)) ++ items)
  | none, held, c :: rest =>
      if c = '\'' ∨ c = '"' then scan isWhole (some c) (some (held.getD [])) rest
      else if c = ' ' ∨ c = '\t' then
        if isWhole then scan isWhole none (held.map fun item => c :: item) rest
        else do
          let items ← scan isWhole none none rest
          .ok (held.toList.map (fun item => (item.reverse, false)) ++ items)
      else if c = '\\' then scan isWhole none held rest
      else scan isWhole none (some (c :: held.getD [])) rest
where
  unmatched (quote : Char) : Text :=
    "unmatched " ++ (if quote = '"' then ("double" : Text) else "single") ++
      " quote; by default quotes are special to xargs unless you use the -0 option"

def items (style : ItemStyle) (text : Text) : Except Text (List (Text × Bool)) :=
  match style.delimiter with
  | some delimiter =>
      let parts := Text.cut delimiter text
      let bare := if parts.getLast? = some [] then parts.dropLast else parts
      .ok (bare.map fun part => (part, true))
  | none => do
      let found ← scan style.mark.isSome none none text
      match style.ending with
      | some ending => .ok (found.takeWhile fun item => item.1 ≠ ending)
      | none => .ok found

/-- Puts items together for one command each. The room that is left, the numbers of items and of lines so
far and the items themselves are held. -/
def batches (style : ItemStyle) (room : Nat) :
    Nat → Nat → Nat → List Text → List (Text × Bool) → List (List Text)
  | _, _, _, held, [] => if held.isEmpty then [] else [held.reverse]
  | left, count, lines, held, (item, endsLine) :: rest =>
      let size := (Text.toOctets item).length + 1
      let line := if endsLine then 1 else 0
      let isFull : Bool := left < size && !held.isEmpty
      let closed : List (List Text) := if isFull then [held.reverse] else []
      let (left, count, lines, held) : Nat × Nat × Nat × List Text :=
        if isFull then (room - size, 1, line, [item])
        else (left - size, count + 1, lines + line, item :: held)
      if style.most.any (· ≤ count) || style.lines.any (· ≤ lines) then
        closed ++ held.reverse :: batches style room room 0 0 [] rest
      else closed ++ batches style room left count lines held rest

end ItemStyle

namespace Invocation

/-- A text with another one in each place of a mark. As many steps are allowed. -/
def putInPlace (mark new : Text) : Nat → Text → Text
  | 0, text => text
  | _, [] => []
  | steps + 1, c :: rest =>
      if mark.isPrefixOf (c :: rest) ∧ !mark.isEmpty then
        new ++ putInPlace mark new steps ((c :: rest).drop mark.length)
      else c :: putInPlace mark new steps rest

/-- Runs commands one after the other, up to one that cannot be run. -/
def runEach (invocation : Invocation) (isShown : Bool) (input : List UInt8) :
    Effect → List (List Text) → Effect
  | effect, [] => effect
  | effect, words :: rest =>
      let name := words.headD []
      let shown : Outcome :=
        if isShown then .ofError (Text.join " " (words.map typed) ++ "\n") 0 else {}
      let before := { effect with outcome := effect.outcome.append shown }
      let stop (outcome : Outcome) (message : Text) (status : Nat) : Effect :=
        { before with
          outcome := ⟨(before.outcome.append outcome).written ++
            (Outcome.ofError (invocation.message message) 0).written, status⟩ }
      match invocation.execute words before.tree input with
      | .error errno => stop {} (name ++ ": " ++ errno.text) (Errno.startStatus errno)
      | .ok after =>
          let next : Effect := { before with tree := after.tree }
          if after.outcome.status = 255 then
            { stop after.outcome (name ++ ": exited with status 255; aborting") 124 with
              tree := after.tree }
          else
            let status := if after.outcome.status = 0 then 0 else 123
            runEach invocation isShown input
              { next with outcome := next.outcome.append { after.outcome with status } } rest

/-- Makes commands out of what it reads. -/
def xargs (invocation : Invocation) : Effect :=
  let table := OptionForm.table <|
    "0=null a:=arg-file d:=delimiter E: e::=eof I: i::=replace L: l::=max-lines n:=max-args " ++
    "o=open-tty p=interactive P:=max-procs r=no-run-if-empty s:=max-chars t=verbose x=exit"
  match Options.read table true {} invocation.arguments with
  | .error error => invocation.misuse error.message 1
  | .ok options =>
      let letters : List Text := ["n", "L", "P", "s"]
      let wrong := options.found.find? fun (key, value) =>
        letters.contains key && ((count? value).isNone || (value.all (· = '0') && key ≠ "P"))
      match wrong with
      | some (key, value) =>
          if (count? value).isNone then
            invocation.misuse ("invalid number \"" ++ value ++ "\" for -" ++ key ++ " option") 1
          else
            invocation.misuse ("value " ++ value ++ " for -" ++ key ++ " option should be >= 1") 1
      | none =>
          let number? (key : Text) : Option Nat := (options.value? key).bind count?
          let mark? : Option Text :=
            match options.value? "I", options.value? "i" with
            | some mark, _ => some mark
            | none, some mark => some (if mark.isEmpty then ['\x7b', '\x7d'] else mark)
            | none, none => none
          let delimiter? : Option Char :=
            if options.has "0" then some '\x00'
            else
              (options.value? "d").map fun
                | ['\\', 'n'] => '\n'
                | ['\\', 't'] => '\t'
                | ['\\', '0'] => '\x00'
                | word => word.headD '\n'
          let lines? : Option Nat :=
            if options.has "l" then some (((options.value? "l").bind count?).getD 1)
            else number? "L"
          let style : ItemStyle := {
            delimiter := delimiter?
            ending := (options.value? "E").orElse fun _ => options.value? "e"
            mark := mark?
            most := if mark?.isSome then some 1 else number? "n"
            lines := lines?
            size := (number? "s").getD 131072 }
          let source : Except Errno (List UInt8) :=
            match options.value? "a" with
            | none => .ok invocation.input
            | some name => invocation.tree.readBytes name
          match source with
          | .error errno =>
              let name := (options.value? "a").getD []
              invocation.refuse ("Cannot open input file " ++ curled name ++ ": " ++ errno.text) 1
          | .ok bytes =>
              let consumed : Effect := ⟨invocation.tree,
                if options.has "a" then invocation.input else [], {}⟩
              let input := if options.has "a" then invocation.input else []
              match style.items (Text.ofOctets bytes) with
              | .error message =>
                  { consumed with outcome := .ofError (invocation.message message) 1 }
              | .ok items =>
                  let words : List Text :=
                    if options.operands.isEmpty then ["echo"] else options.operands
                  let fixed := words.foldl (fun total word => total + (Text.toOctets word).length + 1) 0
                  let room := style.size - fixed
                  let batches := style.batches room room 0 0 [] items
                  let isTooLong := items.any fun item => room < (Text.toOctets item.1).length + 1
                  let commands : List (List Text) :=
                    match style.mark with
                    | some mark =>
                        batches.map fun batch =>
                          words.head?.toList ++ words.tail.map fun word =>
                            putInPlace mark (batch.headD []) (word.length + 1) word
                    | none =>
                        if batches.isEmpty ∧ !options.has "r" then [words]
                        else batches.map fun batch => words ++ batch
                  if isTooLong then
                    { consumed with
                      outcome := .ofError (invocation.message "argument line too long") 1 }
                  else invocation.runEach (options.has "t" || options.has "p") input consumed commands

end Invocation

end AsmLens.Shell
